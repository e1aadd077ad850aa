import ZoneServices.Text.Basic
import ZoneServices.Text.Number

/-!
# Tokens of a payload

The payload of most record types is a list of tokens.  A token is a run of characters up to a
blank or a comment, or a quoted text; tokens between parentheses may go over several lines.  A
semicolon starts a comment that goes to the end of its line.

The tokens are found in one walk over the characters.  The walk knows where it stands (`Place`)
and the tokens it has finished; each character takes it one step further or is refused.
-/

namespace ZoneServices.Payload

/-- Where a walk over a payload stands; words and lists under way are kept in reverse. -/
inductive Place where
  | between
  | bare (word : Text)
  | quoted (word : Text)
  | escape (word : Text)
  | escapeOne (word : Text) (first : Nat)
  | escapeTwo (word : Text) (first second : Nat)
  | comment
  /-- Behind a carriage return, which a line feed has to follow. -/
  | lineEnd
  | list (items : List Text)
  | listBare (items : List Text) (word : Text)
  | listComment (items : List Text)
deriving DecidableEq, Repr

/-- Whether a place lies between parentheses. -/
def Place.isInList : Place → Bool
  | .list _ | .listBare _ _ | .listComment _ => true
  | _ => false

/-- A walk over a payload: the tokens it has finished, in reverse, and where it stands. -/
structure Walk where
  tokens : List Text
  place : Place
deriving DecidableEq, Repr

namespace Walk

/-- The walk before the first character. -/
def start : Walk := ⟨[], .between⟩

/-- The walk behind a character that stands between two tokens. -/
def stepBetween (tokens : List Text) (character : Char) : Option Walk :=
  if character = '@' ∨ character = '$' ∨ character = ')' then none
  else if character = '(' then some ⟨tokens, .list []⟩
  else if character = '"' then some ⟨tokens, .quoted []⟩
  else if character = ';' then some ⟨tokens, .comment⟩
  else if character = '\r' then some ⟨tokens, .lineEnd⟩
  else if Text.isBlank character then some ⟨tokens, .between⟩
  else if Text.isControl character then none
  else some ⟨tokens, .bare [character]⟩

/-- The walk behind a character that stands between two tokens in parentheses. -/
def stepList (tokens items : List Text) (character : Char) : Option Walk :=
  if character = ';' then some ⟨tokens, .listComment items⟩
  else if character = ')' then some ⟨items ++ tokens, .between⟩
  else if Text.isBlank character then some ⟨tokens, .list items⟩
  else if Text.isControl character then none
  else some ⟨tokens, .listBare items [character]⟩

/-- The walk behind one more character, unless the character is refused. -/
def step (walk : Walk) (character : Char) : Option Walk :=
  match walk.place with
  | .between => stepBetween walk.tokens character
  | .bare word =>
    -- A parenthesis that closes no list is refused even inside a word.
    if character = ')' then none
    else if Text.isBlank character || character == ';' then
      stepBetween (word.reverse :: walk.tokens) character
    else if Text.isControl character then none
    else some ⟨walk.tokens, .bare (character :: word)⟩
  | .quoted word =>
    if character = '"' then some ⟨word.reverse :: walk.tokens, .between⟩
    else if character = '\\' then some ⟨walk.tokens, .escape word⟩
    else some ⟨walk.tokens, .quoted (character :: word)⟩
  | .escape word =>
    -- Digits of other scripts are numbers here, and refused because they have no value.
    if Text.isControl character then none
    else if Text.isNumber character then
      (Text.digit? character).map fun first => ⟨walk.tokens, .escapeOne word first⟩
    else
      some ⟨walk.tokens, .quoted (character :: word)⟩
  | .escapeOne word first =>
    (Text.digit? character).map fun second => ⟨walk.tokens, .escapeTwo word first second⟩
  | .escapeTwo word first second =>
    (Text.digit? character).map fun third =>
      -- Three digits are weighed like octets, so the character is not the one that
      -- their number names.
      ⟨walk.tokens, .quoted (Char.ofNat (first * 65536 + second * 256 + third) :: word)⟩
  | .comment =>
    if character = '\r' then some ⟨walk.tokens, .lineEnd⟩
    else if character = '\n' then some ⟨walk.tokens, .between⟩
    else some ⟨walk.tokens, .comment⟩
  | .lineEnd =>
    if character = '\n' then some ⟨walk.tokens, .between⟩
    else if character = '\r' then some ⟨walk.tokens, .lineEnd⟩
    else none
  | .list items => stepList walk.tokens items character
  | .listBare items word =>
    if Text.isBlank character || character == ')' || character == ';' then
      stepList walk.tokens (word.reverse :: items) character
    else if Text.isControl character then none
    else some ⟨walk.tokens, .listBare items (character :: word)⟩
  | .listComment items =>
    if character = '\r' ∨ character = '\n' then some ⟨walk.tokens, .list items⟩
    else some ⟨walk.tokens, .listComment items⟩

/--
The tokens when the payload ends, if it may end there.  A list that is still open is refused
between its tokens; inside one of them that token counts and the others of the list do not, and
inside a comment none does.
-/
def finish? (walk : Walk) : Option (List Text) :=
  match walk.place with
  | .between | .comment | .listComment _ => some walk.tokens.reverse
  | .bare word | .listBare _ word => some (word.reverse :: walk.tokens).reverse
  | .quoted _ | .escape _ | .escapeOne _ _ | .escapeTwo _ _ _ | .lineEnd | .list _ => none

end Walk

/-- The tokens of a payload. -/
def tokens? (payload : Text) : Option (List Text) :=
  (payload.foldlM Walk.step Walk.start).bind Walk.finish?

end ZoneServices.Payload
