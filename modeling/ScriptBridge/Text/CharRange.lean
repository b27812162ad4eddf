/-! Sets of characters given by their runs. -/
namespace ScriptBridge.Text

/-- Membership in a set of codes given by where its runs begin and end, in ascending order: an odd number of bounds
lies at or below a member. -/
def withinBounds (bounds : List Nat) (code : Nat) : Bool :=
  (bounds.takeWhile (· ≤ code)).length % 2 == 1

end ScriptBridge.Text
