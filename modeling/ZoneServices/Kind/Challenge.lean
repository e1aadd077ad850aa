import ZoneServices.Registry

/-!
# Ownership challenges

To prove that one controls a domain, the provider Scaleway asks for a text record with a token
under a label of its own.  The service belongs to the name that the label stands on.
-/

namespace ZoneServices

/-- A challenge of the provider Scaleway. -/
structure Challenge where
  token : Text
deriving DecidableEq, Repr

namespace Challenge

/-- The label under which a challenge is answered. -/
def label : Text := "_scaleway-challenge".toList

/-- What the owner of a challenge starts with. -/
def ownerStart : Text := label ++ ['.']

/-- The record of a challenge, which must have a token. -/
def records (challenge : Challenge) (subdomain : Text) (ttl : UInt32) (origin : Text) :
    Except SynthesisError (List Record) :=
  if challenge.token.isEmpty then
    .error (.invalidRecord subdomain "empty Scaleway challenge".toList)
  else
    .ok [Record.ofText (Owner.join [label, subdomain]) ttl origin challenge.token]

instance : ServiceKind Challenge where
  key := "abstract.ScalewayChallenge".toList
  blank := ⟨[]⟩
  decode? value := do
    let [token] ← value.fields? ["Challenge"]
      | none
    return ⟨← Json.required Json.text? token⟩
  kindKey _ := "abstract.ScalewayChallenge".toList
  kindKey_eq _ := rfl
  resourceCount _ := 1
  comment challenge _ := challenge.token
  records := records
  subdomains? _ := some [label]
  encode challenge := .ofMembers [("Challenge", .string challenge.token)]

variable {Memory Body : Type} [ServiceBody Body] [Hosts Body Challenge]

/-- Makes a challenge of each of some records whose strings can be read. -/
def claimEach : List (Nat × Record) → Recognizer Memory Body
  | [] => return
  | (id, record) :: rest => do
    -- A record without readable strings stays free for the sweep.
    if record.strings?.isSome then
      let name := record.owner.drop ownerStart.length
      let _ ← Recognition.use id name (Challenge.mk record.joinedText)
    claimEach rest

/-- Makes challenges of the free texts under their label. -/
def recognizer : Recognizer Memory Body := do
  claimEach (← Recognition.search [{ type := some .txt, ownerStart := ownerStart }])

/-- The kind as it is registered; it runs before all others. -/
def registration : Registration Memory Body :=
  .ofKind Challenge
    { name := "Scaleway Challenge".toList
      description := "Temporary record to prove that you control the domain.".toList
      family := .byPurpose
      categories := ["temporary".toList]
      restrictions := { nearAlone := true } }
    2 (some recognizer)

end Challenge

end ZoneServices
