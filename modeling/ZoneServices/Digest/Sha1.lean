import ZoneServices.Text.Utf8

/-!
# SHA-1

The digest of twenty octets that service identifiers are made of.  A message is filled up to
whole blocks of sixteen words, and each block mixes five words of state in eighty rounds.
-/

namespace ZoneServices.Sha1

/-- The five words that a digest is computed in. -/
structure State where
  a : UInt32
  b : UInt32
  c : UInt32
  d : UInt32
  e : UInt32

/-- The words that every digest starts from. -/
def State.initial : State :=
  ⟨0x67452301, 0xEFCDAB89, 0x98BADCFE, 0x10325476, 0xC3D2E1F0⟩

/-- A word turned left by `count` bits, `0 < count < 32`. -/
def rotateLeft (word : UInt32) (count : UInt32) : UInt32 :=
  (word <<< count) ||| (word >>> (32 - count))

/-- The lowest octets of a number, the highest of them first. -/
def bigEndian (size value : Nat) : Octets :=
  (List.range size).map fun position => UInt8.ofNat (value >>> (8 * (size - 1 - position)))

/--
A message filled up: a one bit, zeros, and its length in bits, to a multiple of sixty-four
octets.
-/
def padded (message : Octets) : Octets :=
  let zeros := (119 - message.length % 64) % 64
  message ++ 0x80 :: List.replicate zeros 0 ++ bigEndian 8 (message.length * 8)

/-- Words of four octets each, the highest octet first. -/
def words : Octets → List UInt32
  | a :: b :: c :: d :: rest =>
    UInt32.ofNat (((a.toNat * 256 + b.toNat) * 256 + c.toNat) * 256 + d.toNat) :: words rest
  | _ => []

/-- The eighty words that the rounds of a block take, of which the block gives the first sixteen. -/
def schedule (block : List UInt32) : Array UInt32 :=
  (List.range 64).foldl
    (fun words step =>
      let position := step + 16
      let word (back : Nat) : UInt32 := (words[position - back]?).getD 0
      words.push (rotateLeft (word 3 ^^^ word 8 ^^^ word 14 ^^^ word 16) 1))
    block.toArray

/-- The state after one round with a word. -/
def State.round (state : State) (step : Nat) (word : UInt32) : State :=
  let mixed : UInt32 × UInt32 :=
    if step < 20 then ((state.b &&& state.c) ||| (~~~state.b &&& state.d), 0x5A827999)
    else if step < 40 then (state.b ^^^ state.c ^^^ state.d, 0x6ED9EBA1)
    else if step < 60 then
      ((state.b &&& state.c) ||| (state.b &&& state.d) ||| (state.c &&& state.d), 0x8F1BBCDC)
    else (state.b ^^^ state.c ^^^ state.d, 0xCA62C1D6)
  { a := rotateLeft state.a 5 + mixed.1 + state.e + mixed.2 + word
    b := state.a
    c := rotateLeft state.b 30
    d := state.c
    e := state.d }

/-- The state after a block: what the rounds make of it is added to it. -/
def State.absorb (state : State) (block : List UInt32) : State :=
  let last := (schedule block).toList.zipIdx.foldl
    (fun current word => current.round word.2 word.1) state
  ⟨state.a + last.a, state.b + last.b, state.c + last.c, state.d + last.d, state.e + last.e⟩

/-- The blocks of sixteen words of a list of words, as many as there are whole ones. -/
def blocks (words : List UInt32) : List (List UInt32) :=
  (List.range (words.length / 16)).map fun position => (words.drop (position * 16)).take 16

/-- The state after all blocks of a message. -/
def finalState (message : Octets) : State :=
  (blocks (words (padded message))).foldl State.absorb .initial

/-- The digest of a message. -/
def digest (message : Octets) : Vector UInt8 20 :=
  let state := finalState message
  let words := #v[state.a, state.b, state.c, state.d, state.e]
  Vector.ofFn fun position =>
    UInt8.ofNat (words[position.val / 4].toNat >>> (8 * (3 - position.val % 4)))

end ZoneServices.Sha1
