import DocQuery.Text.Kind

/-! Characters that can be shown as they are. -/
namespace DocQuery.Text

/-- Controls, formats, private, unassigned and separating characters, what joins the
character before it, and what is not shown at all. -/
def hiddenSet : CharSet :=
  (Trait.oneOf [.category ["C", "Z"], .graphemeExtend, .ignorable]).set .latest

/-- The space alone separates and is shown. -/
def isPrintable (c : Char) : Bool := c == ' ' || !hiddenSet.has c

end DocQuery.Text
