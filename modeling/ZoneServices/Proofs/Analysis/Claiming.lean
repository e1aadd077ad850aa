import ZoneServices.Kind.Grouping
import ZoneServices.Proofs.Analysis.Group
import ZoneServices.Proofs.Analysis.Standing

/-!
# Recognizers that claim record by record

Recognizers search for the free records of some filters and then go through them once.  Either
they make a service of every record that they can read, or they gather the records of one owner
in one service.  Both are run here on any list of records: such a recognizer never fails, the
records that it can read are claimed afterwards, and its services stand behind those that were
filed before.

The induction goes over the records that are still ahead; the cells behind are kept apart, so
that the place of the next record is their number.
-/

namespace ZoneServices

open Directory

variable {Memory Body Kind Item : Type} [ServiceBody Body]

/-! ## Records ahead -/

/-- The cells of records of which some are taken. -/
def cellsOf (isTaken : Record → Bool) (records : List Record) : List Cell :=
  records.map fun record => ⟨record, isTaken record⟩

@[simp]
theorem cellsOf_cons (isTaken : Record → Bool) (record : Record) (rest : List Record) :
    cellsOf isTaken (record :: rest) = ⟨record, isTaken record⟩ :: cellsOf isTaken rest := rfl

/-- The wanted ones of some records, the first of which has the given place. -/
def placed (isWanted : Record → Bool) : (place : Nat) → List Record → List (Nat × Record)
  | _, [] => []
  | place, record :: rest =>
    if isWanted record then
      (place, record) :: placed isWanted (place + 1) rest
    else
      placed isWanted (place + 1) rest

/-- A search finds all records of its filters when none of them is taken. -/
theorem search_standing {Body : Type} (premises : Premises) {isTaken : Record → Bool}
    {filters : List RecordFilter}
    (free : ∀ record, filters.any (·.accepts record) = true → isTaken record = false)
    (records : List Record) (filed : List (Service Body)) (running : Text) :
    (premises.standing (cellsOf isTaken records) filed running).search filters =
      placed (fun record => filters.any (·.accepts record)) 0 records := by
  change ((cellsOf isTaken records).zipIdx 0).filterMap _ = _
  generalize 0 = place
  induction records generalizing place with
  | nil => rfl
  | cons record rest step =>
      have others := step (place + 1)
      rw [cellsOf_cons, List.zipIdx_cons, List.filterMap_cons, placed]
      dsimp only
      by_cases wanted : filters.any (·.accepts record) = true
      · rw [wanted, free record wanted, others]
        rfl
      · rw [Bool.not_eq_true] at wanted
        rw [wanted, others, Bool.and_false]
        rfl

/-! ## Running a recognizer -/

/-- The scene of an analysis. -/
def Premises.scene (premises : Premises) (cells : List Cell) (filed : List (Service Body))
    (running : Text) (memory : Memory) : Scene Memory Body :=
  ⟨premises.standing cells filed running, memory⟩

namespace Recognition

/-- A course that goes through is followed by the next one. -/
theorem run_bind {Result Next : Type} {recognition : Recognition Memory Body Result}
    {next : Result → Recognition Memory Body Next} {scene after : Scene Memory Body}
    {result : Result} (run : recognition.run scene = (.ok result, after)) :
    (recognition >>= next).run scene = (next result).run after := by
  change (recognition.bind next).run scene = _
  induction recognition generalizing scene with
  | done value =>
      cases run
      rfl
  | fail failure => cases run
  | ask command answers step => exact step _ run

variable [ServiceKind Kind] [Hosts Body Kind] (premises : Premises) (finished rest : List Cell)
  (cell : Cell) (filed : List (Service Body)) (running : Text) (memory : Memory)

/--
A free record that is used makes a service behind all others, and its place counts those on its
subdomain.
-/
theorem run_use (free : cell.claimed = false) (name : Text) (kind : Kind) :
    (use finished.length name kind : Recognition Memory Body Slot).run
        (premises.scene (finished ++ cell :: rest) filed running memory) =
      (.ok ⟨Owner.relativeTo name premises.origin,
          (under Premises.subdomain (Owner.relativeTo name premises.origin) filed).length⟩,
        premises.scene (finished ++ ⟨cell.record, true⟩ :: rest)
          (filed ++ [premises.service cell.record name (Hosts.inject kind)]) running memory) := by
  have performed := premises.use_standing finished rest cell filed running free name
    (Hosts.inject kind : Body)
  simp only [use, run, Command.perform, Premises.scene, performed, Scene.settle, insist]

/-- A free record that extends a service changes the service where it stands, and no other. -/
theorem run_extend (free : cell.claimed = false) (before after : List (Service Body))
    (leader : Record) (name : Text) (kind : Kind) (update : Kind → Record → Kind) :
    (extend Kind finished.length
          ⟨Owner.relativeTo name premises.origin,
            (under Premises.subdomain (Owner.relativeTo name premises.origin) before).length⟩
          update : Recognition Memory Body Unit).run
        (premises.scene (finished ++ cell :: rest)
          (before ++ premises.service leader name (Hosts.inject kind) :: after) running memory) =
      (.ok (), premises.scene (finished ++ ⟨cell.record, true⟩ :: rest)
        (before ++ premises.service leader name (Hosts.inject (update kind cell.record)) :: after)
        running memory) := by
  have performed := premises.extend_standing finished rest cell running free before after
    leader name kind update
  simp only [extend, run, Command.perform, Premises.scene, performed, Except.map, Scene.settle,
    insist]

end Recognition

/-! ## A service for every record -/

/-- What is read from a record, if it is one of those that are wanted. -/
def among {Value : Type} (isWanted : Record → Bool) (read? : Record → Option Value)
    (record : Record) : Option Value :=
  if isWanted record then read? record else none

/-- Among wanted records a value is read if the record is wanted and has one. -/
theorem among_eq_some_iff {Value : Type} {isWanted : Record → Bool}
    {read? : Record → Option Value} {record : Record} {value : Value} :
    among isWanted read? record = some value ↔
      isWanted record = true ∧ read? record = some value := by
  unfold among
  split
  · rename_i wanted
    simp [wanted]
  · rename_i unwanted
    simp [unwanted]

theorem among_eq_none_iff {Value : Type} {isWanted : Record → Bool}
    {read? : Record → Option Value} {record : Record} :
    among isWanted read? record = none ↔ isWanted record = false ∨ read? record = none := by
  unfold among
  split
  · rename_i wanted
    simp [wanted]
  · rename_i unwanted
    simp [unwanted]

variable [ServiceKind Kind] [Hosts Body Kind] (premises : Premises)
  {isWanted isTaken : Record → Bool}
  (free : ∀ record, isWanted record = true → isTaken record = false) (running : Text)
  (memory : Memory)

/-- Makes a service of every record that is read, on the subdomain of the name that is read. -/
def useEach (read? : Record → Option (Text × Kind)) : List (Nat × Record) → Recognizer Memory Body
  | [] => pure ()
  | (id, record) :: rest =>
    match read? record with
    | none => useEach read? rest
    | some claim => do
      let _ ← Recognition.use id claim.1 claim.2
      useEach read? rest

/-- The service of a record that is read. -/
def Premises.serviceOf? (premises : Premises) (read? : Record → Option (Text × Kind))
    (record : Record) : Option (Service Body) :=
  (read? record).map fun claim => premises.service record claim.1 (Hosts.inject claim.2)

theorem useEach_placed_of_none {read? : Record → Option (Text × Kind)} {record : Record}
    (unread : among isWanted read? record = none) (place : Nat) (rest : List Record) :
    (useEach read? (placed isWanted place (record :: rest)) : Recognizer Memory Body) =
      useEach read? (placed isWanted (place + 1) rest) := by
  rw [placed]
  split
  · rename_i wanted
    rcases among_eq_none_iff.mp unread with unwanted | unread
    · rw [wanted] at unwanted
      cases unwanted
    · rw [useEach, unread]
  · rfl

include free in
/-- The records that are read become services, in their order, and are claimed afterwards. -/
theorem run_useEach (read? : Record → Option (Text × Kind)) (records : List Record)
    (finished : List Cell) (filed : List (Service Body)) :
    (useEach read? (placed isWanted finished.length records) : Recognizer Memory Body).run
        (premises.scene (finished ++ cellsOf isTaken records) filed running memory) =
      (.ok (), premises.scene
        (finished ++ cellsOf
          (fun record => isTaken record || (among isWanted read? record).isSome) records)
        (filed ++ records.filterMap (premises.serviceOf? (among isWanted read?)))
        running memory) := by
  induction records generalizing finished filed with
  | nil => simp [placed, useEach, cellsOf, Recognition.run, pure]
  | cons record rest step =>
      have ahead : ∀ isClaimed filed, _ := fun isClaimed => step (finished ++ [⟨record, isClaimed⟩])
      simp only [List.length_append, List.length_singleton, List.append_assoc,
        List.singleton_append] at ahead
      rw [cellsOf_cons, cellsOf_cons, List.filterMap_cons, Premises.serviceOf?]
      cases read : among isWanted read? record with
      | none =>
          rw [useEach_placed_of_none read, ahead, Option.isSome_none, Bool.or_false]
          rfl
      | some claim =>
          rcases among_eq_some_iff.mp read with ⟨wanted, found⟩
          rw [placed, if_pos wanted, useEach, found]
          dsimp only
          rw [Recognition.run_bind (Recognition.run_use premises finished _ ⟨record, _⟩ filed
            running memory (free record wanted) claim.1 claim.2)]
          rw [ahead, Option.isSome_some, Bool.or_true]
          simp

/-! ## One service for each owner -/

/-- The service of a group, whose body is started with the first item and takes the others in. -/
def Premises.groupService (premises : Premises) (start : Item → Kind) (add : Kind → Item → Kind)
    (group : Group Item) : Service Body :=
  premises.service group.leader group.leader.owner
    (Hosts.inject (group.others.foldl add (start group.first)))

/-- The place of the service of an owner behind services on some subdomains. -/
def slotAmong (origin : Text) : (before : List Text) → (owners : List Text) → Text → Option Slot
  | _, [], _ => none
  | before, name :: rest, owner =>
    let subdomain := Owner.relativeTo name origin
    if owner = Text.fold name then some ⟨subdomain, before.count subdomain⟩
    else slotAmong origin (before ++ [subdomain]) rest owner

theorem slotAmong_append (origin : Text) (before owners : List Text) (name owner : Text) :
    slotAmong origin before (owners ++ [name]) owner =
      ((slotAmong origin before owners owner).or <|
        slotAmong origin (before ++ owners.map (Owner.relativeTo · origin)) [name] owner) := by
  induction owners generalizing before with
  | nil => simp [slotAmong]
  | cons first rest step =>
      rw [List.cons_append, slotAmong, slotAmong]
      split
      · rfl
      · rw [step, List.append_assoc]
        rfl

theorem slotAmong_eq_none {origin : Text} {before : List Text} {groups : List (Group Item)}
    {owner : Text} (absent : slotAmong origin before (Group.leaderOwners groups) owner = none) :
    Group.isOwner owner groups = false := by
  induction groups generalizing before with
  | nil => rfl
  | cons group rest step =>
      rw [Group.leaderOwners, List.map_cons, ← Group.leaderOwners, slotAmong] at absent
      split at absent
      · cases absent
      · rename_i other
        rw [Group.isOwner, List.any_cons, Bool.or_eq_false_iff, beq_eq_false_iff_ne]
        exact ⟨fun same => other same.symm, step absent⟩

/-- The slot that is found for an owner is that of its group. -/
theorem slotAmong_eq_some {origin : Text} {before : List Text} {groups : List (Group Item)}
    {owner : Text} {slot : Slot}
    (found : slotAmong origin before (Group.leaderOwners groups) owner = some slot) :
    ∃ front group back, groups = front ++ group :: back ∧ Group.isOwner owner front = false
      ∧ group.owner = owner
      ∧ slot = ⟨Owner.relativeTo group.leader.owner origin,
          (before ++ (Group.leaderOwners front).map (Owner.relativeTo · origin)).count
            (Owner.relativeTo group.leader.owner origin)⟩ := by
  induction groups generalizing before with
  | nil => cases found
  | cons group rest step =>
      rw [Group.leaderOwners, List.map_cons, ← Group.leaderOwners, slotAmong] at found
      split at found
      · rename_i same
        refine ⟨[], group, rest, rfl, rfl, same.symm, ?_⟩
        rw [Group.leaderOwners, List.map_nil, List.map_nil, List.append_nil]
        exact (Option.some.inj found).symm
      · rename_i other
        rcases step found with ⟨front, member, back, rfl, unowned, owned, place⟩
        refine ⟨group :: front, member, back, rfl, ?_, owned, ?_⟩
        · rw [Group.isOwner, List.any_cons, Bool.or_eq_false_iff, beq_eq_false_iff_ne]
          exact ⟨fun same => other same.symm, unowned⟩
        · rw [place, List.append_assoc]
          rfl

theorem gather_placed_of_none {read? : Record → Option Item} {record : Record}
    (unread : among isWanted read? record = none) (start : Item → Kind) (add : Kind → Item → Kind)
    (places : List (Text × Slot)) (place : Nat) (rest : List Record) :
    (Grouping.gather read? start add places (placed isWanted place (record :: rest)) :
        Recognizer Memory Body) =
      Grouping.gather read? start add places (placed isWanted (place + 1) rest) := by
  rw [placed]
  split
  · rename_i wanted
    rcases among_eq_none_iff.mp unread with unwanted | unread
    · rw [wanted] at unwanted
      cases unwanted
    · rw [Grouping.gather, unread]
  · rfl

/-- The service of an extended group is the service of the group with the item added. -/
theorem groupService_extend (start : Item → Kind) (add : Kind → Item → Kind)
    (group : Group Item) (item : Item) :
    (premises.groupService start add (group.extend item) : Service Body) =
      premises.service group.leader group.leader.owner
        (Hosts.inject (add (group.others.foldl add (start group.first)) item)) := by
  rw [Premises.groupService, Group.extend, List.foldl_append]
  rfl

/-- A kind that lists its items has a service that lists the items of a group. -/
theorem groupService_eq {wrap : List Item → Kind} {add : Kind → Item → Kind}
    (appends : ∀ items item, add (wrap items) item = wrap (items ++ [item])) (group : Group Item) :
    (premises.groupService (fun item => wrap [item]) add group : Service Body) =
      premises.service group.leader group.leader.owner (Hosts.inject (wrap group.items)) := by
  have folded : ∀ items others : List Item,
      others.foldl add (wrap items) = wrap (items ++ others) := by
    intro items others
    induction others generalizing items with
    | nil => rw [List.foldl_nil, List.append_nil]
    | cons item rest step =>
        rw [List.foldl_cons, appends, step, List.append_assoc, List.singleton_append]
  rw [Premises.groupService, folded]
  rfl

/-- The services of groups are filed by the owners of their first records. -/
theorem map_subdomain_groupService (start : Item → Kind) (add : Kind → Item → Kind)
    (groups : List (Group Item)) :
    (groups.map (premises.groupService start add : Group Item → Service Body)).map
        Premises.subdomain =
      (Group.leaderOwners groups).map (Owner.relativeTo · premises.origin) := by
  rw [Group.leaderOwners, List.map_map, List.map_map]
  rfl

/-- The place of the service that stands for an owner behind some services and groups. -/
def slotBehind (before : List (Service Body)) (groups : List (Group Item)) (name : Text) :
    Slot where
  subdomain := Owner.relativeTo name premises.origin
  index := (before.map Premises.subdomain
    ++ (Group.leaderOwners groups).map (Owner.relativeTo · premises.origin)).count
      (Owner.relativeTo name premises.origin)

/-- A record of a known owner is added to the group of that owner. -/
theorem run_extend_group (start : Item → Kind) (add : Kind → Item → Kind)
    (finished rest : List Cell) (cell : Cell) (unclaimed : cell.claimed = false)
    (before : List (Service Body)) (front back : List (Group Item)) (group : Group Item)
    (item : Item) :
    (Recognition.extend Kind finished.length (slotBehind premises before front group.leader.owner)
          (fun kind _ => add kind item) : Recognizer Memory Body).run
        (premises.scene (finished ++ cell :: rest)
          (before ++ (front ++ group :: back).map (premises.groupService start add)) running
          memory) =
      (.ok (), premises.scene (finished ++ ⟨cell.record, true⟩ :: rest)
        (before ++ (front ++ group.extend item :: back).map (premises.groupService start add))
        running memory) := by
  have extended := Recognition.run_extend premises finished rest cell running memory unclaimed
    (before ++ front.map (premises.groupService start add))
    (back.map (premises.groupService start add)) group.leader group.leader.owner
    (group.others.foldl add (start group.first)) (fun kind _ => add kind item)
  rw [length_under, List.map_append, map_subdomain_groupService, List.append_assoc,
    List.append_assoc, ← groupService_extend, ← Premises.groupService] at extended
  rw [List.map_append, List.map_cons, List.map_append, List.map_cons]
  exact extended

/-- A record of a new owner starts a group behind all others. -/
theorem run_use_group (start : Item → Kind) (add : Kind → Item → Kind)
    (finished rest : List Cell) (cell : Cell) (unclaimed : cell.claimed = false)
    (before : List (Service Body)) (groups : List (Group Item)) (item : Item) :
    (Recognition.use finished.length cell.record.owner (start item) :
          Recognition Memory Body Slot).run
        (premises.scene (finished ++ cell :: rest)
          (before ++ groups.map (premises.groupService start add)) running memory) =
      (.ok (slotBehind premises before groups cell.record.owner),
        premises.scene (finished ++ ⟨cell.record, true⟩ :: rest)
          (before ++
            (groups ++ [Group.mk cell.record item []]).map (premises.groupService start add))
          running memory) := by
  have used := Recognition.run_use premises finished rest cell
    (before ++ groups.map (premises.groupService start add)) running memory unclaimed
    cell.record.owner (start item)
  rw [length_under, List.map_append, map_subdomain_groupService, List.append_assoc] at used
  rw [List.map_append]
  exact used

/-- The item of a record with the record. -/
def paired? (read? : Record → Option Item) (record : Record) : Option (Record × Item) :=
  (read? record).map fun item => (record, item)

include free in
/-- The records that are read are gathered by their owners, and are claimed afterwards. -/
theorem run_gather (read? : Record → Option Item) (start : Item → Kind) (add : Kind → Item → Kind)
    (before : List (Service Body)) (records : List Record) (finished : List Cell)
    (groups : List (Group Item)) (places : List (Text × Slot))
    (known : ∀ owner, places.lookup owner =
      slotAmong premises.origin (before.map Premises.subdomain) (Group.leaderOwners groups) owner) :
    (Grouping.gather read? start add places (placed isWanted finished.length records) :
          Recognizer Memory Body).run
        (premises.scene (finished ++ cellsOf isTaken records)
          (before ++ groups.map (premises.groupService start add)) running memory) =
      (.ok (), premises.scene
        (finished ++ cellsOf
          (fun record => isTaken record || (among isWanted read? record).isSome) records)
        (before ++ (Group.absorbAll groups
          (records.filterMap (paired? (among isWanted read?)))).map
            (premises.groupService start add))
        running memory) := by
  induction records generalizing finished groups places with
  | nil => simp [placed, Grouping.gather, cellsOf, Recognition.run, pure, Group.absorbAll]
  | cons record rest step =>
      have ahead : ∀ isClaimed groups places, _ :=
        fun isClaimed => step (finished ++ [⟨record, isClaimed⟩])
      simp only [List.length_append, List.length_singleton, List.append_assoc,
        List.singleton_append] at ahead
      rw [cellsOf_cons, cellsOf_cons, List.filterMap_cons, paired?]
      cases read : among isWanted read? record with
      | none =>
          rw [gather_placed_of_none read, ahead _ groups places known, Option.isSome_none,
            Bool.or_false]
          rfl
      | some item =>
          rcases among_eq_some_iff.mp read with ⟨wanted, found⟩
          have unclaimed : (⟨record, isTaken record⟩ : Cell).claimed = false := free record wanted
          rw [placed, if_pos wanted, Grouping.gather, found, Option.isSome_some, Bool.or_true]
          dsimp only [Option.map_some]
          rw [Group.absorbAll, List.foldl_cons, ← Group.absorbAll]
          -- The places know an owner exactly if one of the groups has it: then its service takes
          -- the item in, and otherwise a service is filed behind all others.
          cases located : places.lookup (Text.fold record.owner) with
          | some slot =>
              rcases slotAmong_eq_some ((known _).symm.trans located) with
                ⟨front, group, back, rfl, unowned, owned, rfl⟩
              rw [Group.absorb_append_cons unowned owned]
              refine (Recognition.run_bind (run_extend_group premises running memory start add
                finished _ ⟨record, _⟩ unclaimed before front back group item)).trans ?_
              apply ahead
              intro owner
              rw [known owner]
              simp [Group.leaderOwners, Group.extend]
          | none =>
              have absent := (known _).symm.trans located
              rw [Group.absorb_of_not_isOwner (slotAmong_eq_none absent)]
              refine (Recognition.run_bind (run_use_group premises running memory start add
                finished _ ⟨record, _⟩ unclaimed before groups item)).trans ?_
              apply ahead
              intro owner
              rw [Directory.lookup_cons, Group.leaderOwners, List.map_append, ← Group.leaderOwners,
                List.map_singleton, slotAmong_append]
              by_cases same : owner = Text.fold record.owner
              · rw [if_pos same, same, absent, Option.none_or, slotAmong, if_pos rfl]
                rfl
              · rw [if_neg same, known owner, slotAmong, if_neg same, slotAmong, Option.or_none]

end ZoneServices
