import Textbase.Text.Basic

/-! Time stamps for the folders of transcripts. -/
namespace Textbase.Shell

def padded (n : Nat) (m : Nat) : Text :=
  List.replicate (n - (Text.ofNat m).length) '0' ++ Text.ofNat m

/-- A minute of the calendar; hours count from 0 to 23. -/
structure Moment where
  year : Nat
  month : Nat
  day : Nat
  hour : Nat
  minute : Nat

/-- Year, month and day, then the hour of a twelve-hour clock and the minute. -/
def Moment.stamp (m : Moment) : Text :=
  padded 4 m.year ++ '-' :: padded 2 m.month ++ '-' :: padded 2 m.day ++ '_' ::
    padded 2 ((m.hour + 11) % 12 + 1) ++ '-' :: padded 2 m.minute ++
    (if m.hour < 12 then "AM" else "PM").toList

end Textbase.Shell
