import Jukebox.Settings.Basic
import Jukebox.Text.Substitute
import Jukebox.Widget.Basic

/-!
# The arguments of an external player

The arguments of an external player are templates. Five placeholders stand for the item, and they
are replaced one after the other: the address, the identifier, the width, the height and the anchor.
A text put in for one of them is open to the ones that follow.
-/

namespace Jukebox

open Text

/-- The placeholder with a given name. -/
def placeholder (name : String) : List Char :=
  '\x7b' :: (name.toList ++ ['\x7d'])

/-- The address of an item. -/
def WidgetSettings.url (s : WidgetSettings) (spec : WidgetSpec) : List Char :=
  replaceAll (placeholder "id") spec.identifier.toList s.urlTemplate.toList

/-- The placeholders in the order in which they are replaced, with what takes their place. -/
def WidgetSettings.replacements (s : WidgetSettings) (spec : WidgetSpec) : Substitution :=
  [ (placeholder "url", s.url spec),
    (placeholder "id", spec.identifier.toList),
    (placeholder "width", (toString spec.width.toNat).toList),
    (placeholder "height", (toString spec.height.toNat).toList),
    (placeholder "anchor", spec.anchor.toList) ]

/-- The arguments for an item, one for each template. -/
def WidgetSettings.argumentsFor (s : WidgetSettings) (spec : WidgetSpec) : List String :=
  s.args.map fun template =>
    String.ofList ((s.replacements spec).foldl
      (fun text (pattern, value) => replaceAll pattern value text) template.toList)

end Jukebox
