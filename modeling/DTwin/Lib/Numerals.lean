import Mathlib.Data.Nat.Init

/-!
# DTwin.Lib.Numerals — literals of number types

A literal is one of any type with a cast from the naturals, since it is at least two, which is found for a successor.
For the literals that several modules write, what is found has a name here: one literal is one term in all of them. -/

namespace DTwin

instance atLeastTwo_two : Nat.AtLeastTwo (nat_lit 2) := inferInstance

instance atLeastTwo_three : Nat.AtLeastTwo (nat_lit 3) := inferInstance

instance atLeastTwo_four : Nat.AtLeastTwo (nat_lit 4) := inferInstance

instance atLeastTwo_nine : Nat.AtLeastTwo (nat_lit 9) := inferInstance

instance atLeastTwo_ten : Nat.AtLeastTwo (nat_lit 10) := inferInstance

instance atLeastTwo_twelve : Nat.AtLeastTwo (nat_lit 12) := inferInstance

instance atLeastTwo_twentyFour : Nat.AtLeastTwo (nat_lit 24) := inferInstance

instance atLeastTwo_thirty : Nat.AtLeastTwo (nat_lit 30) := inferInstance

instance atLeastTwo_thirtyFive : Nat.AtLeastTwo (nat_lit 35) := inferInstance

instance atLeastTwo_hundred : Nat.AtLeastTwo (nat_lit 100) := inferInstance

instance atLeastTwo_oneEighty : Nat.AtLeastTwo (nat_lit 180) := inferInstance

instance atLeastTwo_threeSixty : Nat.AtLeastTwo (nat_lit 360) := inferInstance

instance atLeastTwo_threeSixtyFive : Nat.AtLeastTwo (nat_lit 365) := inferInstance

instance atLeastTwo_eightHundred : Nat.AtLeastTwo (nat_lit 800) := inferInstance

instance atLeastTwo_nineFifty : Nat.AtLeastTwo (nat_lit 950) := inferInstance

instance atLeastTwo_thousand : Nat.AtLeastTwo (nat_lit 1000) := inferInstance

instance atLeastTwo_thirtySixHundred : Nat.AtLeastTwo (nat_lit 3600) := inferInstance

instance atLeastTwo_tenThousand : Nat.AtLeastTwo (nat_lit 10000) := inferInstance

instance atLeastTwo_million : Nat.AtLeastTwo (nat_lit 1000000) := inferInstance

instance atLeastTwo_milliard : Nat.AtLeastTwo (nat_lit 1000000000) := inferInstance

end DTwin
