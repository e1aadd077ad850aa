import ZoneServices.Name.Basic
import ZoneServices.Name.Composition
import ZoneServices.Name.Conversion
import ZoneServices.Name.Direction
import ZoneServices.Name.Joiner
import ZoneServices.Name.Punycode

/-!
# Names in any language

A name is written in ASCII label by label.  First its characters are converted and composed, so
that one name has one form.  A label with characters outside ASCII is then encoded and announced
by `xn--`.  A label that is already announced has to be the encoding of a label in that one form.

No label in any language may start with a mark or with the announcement, and all of them together
keep to the rules of directions.
-/

namespace ZoneServices.Name

/-- What announces an encoded label. -/
def announcement : Text := "xn--".toList

/-- Most characters that a label may have before it is encoded. -/
def shownLimit : Nat := 1000

/-- Most characters that the encoding in an announced label may have. -/
def encodingLimit : Nat := 2000

/-- Whether a label in any language may stand in a name. -/
def isEncodable (label : Text) : Bool :=
  !label.head?.any isMark && joinsWell [] label && !announcement.isPrefixOf label
    && label.length ≤ shownLimit

/-- Whether a label already is in its one form. -/
def isConverted (label : Text) : Bool :=
  label.all (fun character => convert? character == some [character]) && compose label == label

/-- The label that is shown for an announced one, if that is its encoding. -/
def revealed? (label : Text) : Option Text :=
  let encoding := label.drop announcement.length
  if !label.all Text.isAscii || label.getLast? == some '-' || encodingLimit < encoding.length then
    none
  else
    (Punycode.decode? encoding).filter fun shown =>
      !shown.all Text.isAscii && isConverted shown && isEncodable shown

/-- The label that is shown for a label whose characters have been converted. -/
def shown? (label : Text) : Option Text :=
  if announcement.isPrefixOf label then revealed? label
  else if label.all Text.isAscii || isEncodable label then some label
  else none

/-- Whether the labels of a name keep to the rules of directions. -/
def keepDirections (labels : List Text) : Bool :=
  !labels.any hasLeft || labels.all fun label => label.isEmpty || keepsDirection label

/-- A label in ASCII, encoded and announced if it has other characters. -/
def inAscii (label : Text) : Text :=
  if label.all Text.isAscii then label else announcement ++ Punycode.encode label

/--
The labels of a text in ASCII, with dots between them; a class of ASCII characters may be denied
to all of them.
-/
def toAscii? (isDenied : Char → Bool) (text : Text) : Option Text :=
  match text.mapM convert? with
  | none => none
  | some converted =>
    let labels := Text.fields '.' (compose converted.flatten)
    let denies (label : Text) : Bool :=
      label.any fun character => Text.isAscii character && isDenied character
    match labels.mapM shown? with
    | none => none
    | some shown =>
      if labels.any denies || shown.any denies || !keepDirections shown then none
      else some (Text.joined ['.'] (labels.map inAscii))

end ZoneServices.Name
