import Assay.Proofs.Checker.Depth

/-!
# Rejection — what a refused entity leaves in the store

An entity is looked up before it is judged.  To look up a reference to a record that is still to be
made is to make it, and a record that has been made stays even if it is refused then.

* `EntityStore.Makes` relates a reference to the record that a store makes for it, and
  `EntityStore.resolve_snd` states that a lookup does nothing else to a store;
* `Check.Derives` says the same of the value that is checked;
* `Checker.check_entity` goes through a rule for entities, and `Checker.entity_rejection` states
  what a refusal leaves.
-/

namespace Assay

namespace EntityStore

/-- A reference to a new record is followed if the store has its prototype.  The record gets the
owner of the prototype and can be read; it comes last, or takes the place of the one with its
URI. -/
inductive Makes (store : EntityStore) : EntityRef → Entity → EntityStore → Prop where
  | derived {proto : String} {parent : Option String} {prototype made : Entity}
      (known : store.records.lookup proto = some prototype)
      (isMade : made = ⟨.stored store.nextSerial, store.derivedUri parent, prototype.owner, true⟩) :
      Makes store (.derive proto parent) made
        ⟨Entries.put made.uri made store.records, store.derived + 1, store.nextSerial + 1⟩

variable {store after : EntityStore} {reference : EntityRef} {made : Entity}

/-- A store that has made a record is another one. -/
theorem Makes.ne (h : store.Makes reference made after) : after ≠ store := by
  cases h with
  | derived known isMade =>
      intro hsame
      have hcount : store.derived + 1 = store.derived := congrArg EntityStore.derived hsame
      omega

theorem Makes.readable (h : store.Makes reference made after) : made.readable = true := by
  cases h with
  | derived known isMade => rw [isMade]

/-- A reference that makes a record is resolved to it. -/
theorem Makes.resolve_eq (h : store.Makes reference made after) :
    store.resolve reference = (some made, after) := by
  cases h with
  | derived known isMade => simp [resolve, known, isMade, insert]

/-- Whoever makes nothing of a reference stays as it is. -/
theorem resolve_snd (h : ∀ made after, ¬ store.Makes reference made after) :
    (store.resolve reference).2 = store := by
  cases reference with
  | uri u => rfl
  | id i => rfl
  | derive proto parent =>
      cases hknown : store.records.lookup proto with
      | none => simp [resolve, hknown]
      | some prototype => exact absurd (.derived hknown rfl) (h _ _)

end EntityStore

namespace Check

/-- The value refers to a record that is still to be made, and the store can make it: that record,
and the store that has it. -/
def Derives (store : Option EntityStore) (value : Value) (made : Entity) (after : EntityStore) :
    Prop :=
  ∃ s reference, store = some s ∧ EntityRef.ofValue? value = some reference ∧
    s.Makes reference made after

variable {store : Option EntityStore} {condition : Option Value} {value : Value} {made : Entity}
  {after : EntityStore}

theorem Derives.resolved_eq (h : Derives store value made after) :
    resolved store value = (some made, some after) := by
  rcases h with ⟨s, reference, rfl, hrefers, hmakes⟩
  cases value with
  | entity _ => cases hrefers
  | _ => simp only [resolved, hrefers, hmakes.resolve_eq]

/-- A store from which nothing is derived is left as it is. -/
theorem resolved_snd (h : ∀ made after, ¬ Derives store value made after) :
    (resolved store value).2 = store := by
  have hread : ∀ s reference, store = some s → EntityRef.ofValue? value = some reference →
      (s.resolve reference).2 = s := fun s reference hstore hrefers =>
    EntityStore.resolve_snd fun made after hmakes =>
      h made after ⟨s, reference, hstore, hrefers, hmakes⟩
  unfold resolved
  split
  · rfl
  · split
    · rename_i hrefers
      exact congrArg some (hread _ _ rfl hrefers)
    · rfl

/-- The store behind an entity filter does not depend on its condition. -/
theorem entity_snd (condition : Option Value) (store : Option EntityStore) (value : Value) :
    (entity condition store value).2 = (resolved store value).2 := by
  unfold entity
  rcases resolved store value with ⟨found, left⟩
  cases found with
  | none => rfl
  | some e =>
      dsimp only
      split <;> rfl

/-- What is derived changes the store. -/
theorem Derives.ne (h : Derives store value made after) : some after ≠ store := by
  rcases h with ⟨s, reference, rfl, _, hmakes⟩
  exact fun hsame => hmakes.ne (Option.some.inj hsame)

theorem Derives.readable (h : Derives store value made after) : made.readable = true := by
  rcases h with ⟨_, _, _, _, hmakes⟩
  exact hmakes.readable

/-- A record that has just been made can be read, so that only the condition can refuse it. -/
theorem Derives.unmet (h : Derives store value made after)
    (refused : (entity condition store value).1.isOk = false) :
    ∃ c ∈ condition, c.truthy = true ∧ made.meets c = false := by
  have hreadable : made.readable = true := h.readable
  unfold entity at refused
  rw [h.resolved_eq] at refused
  cases condition with
  | none => simp [entityFault?, hreadable, Outcome.ok, Outcome.isOk] at refused
  | some c =>
      cases hunmet : c.truthy && !made.meets c with
      | true => exact ⟨c, rfl, by simpa using hunmet⟩
      | false => simp [entityFault?, hunmet, hreadable, Outcome.ok, Outcome.isOk] at refused

end Check

namespace Checker

open Check

variable {checker : Checker} {rule : Rule} {condition : Option Value}

/-- To check a value is to apply the rule with some step to the next level, or with none. -/
theorem exists_check_eq (checker : Checker) (value : Value) (rule : Rule) :
    ∃ step, checker.check value rule = checker.runWith step rule value := by
  unfold check
  cases checker.settings.maxDepth with
  | zero => exact ⟨none, rfl⟩
  | succ levels => exact ⟨some (checker.run levels), rfl⟩

theorem run_bind {α β : Type} (first : StateM World α) (next : α → StateM World β) (world : World) :
    (first >>= next) world = next (first world).1 (first world).2 := rfl

/-- A rule for entities leaves the world as the lookup does, and it refuses only what is refused as
an entity. -/
theorem check_entity (own : rule.filters = [.entity condition]) (value : Value) (world : World) :
    (checker.check value rule world).2 =
        { world with store := (resolved world.store value).2 } ∧
      ((entity condition world.store value).1.isOk = true →
        (checker.check value rule world).1.isOk = true) := by
  rcases exists_check_eq checker value rule with ⟨step, hstep⟩
  rw [hstep, runWith_eq, own, applyAll_cons, ← entity_snd condition]
  rcases hentity : entity condition world.store value with ⟨⟨kept, fault⟩, left⟩
  have happly : checker.apply step rule (.entity condition) value world =
      (⟨kept, fault⟩, { world with store := left }) := by
    change checkEntity condition value world = _
    rw [checkEntity, hentity]
  rw [run_bind, run_bind, happly]
  cases fault with
  | none => exact ⟨rfl, fun _ => rfl⟩
  | some fault =>
      -- Whether the fault is ignored or not, the world is left to no other filter.
      refine ⟨?_, nofun⟩
      dsimp only
      split <;> rfl

/-- What the refusal of an entity leaves: the world is as it was, unless the value refers to a
record that is still to be made and the store has its prototype.  In that case the store has made
the record, which only the condition can refuse, and keeps it. -/
theorem entity_rejection (own : rule.filters = [.entity condition]) (value : Value) (world : World)
    (rejected : (checker.check value rule world).1.code? = some Kind.entity.name) :
    ((checker.check value rule world).2 = world ↔
        ∀ made after, ¬ Derives world.store value made after) ∧
      ∀ made after, Derives world.store value made after →
        (checker.check value rule world).2 = { world with store := some after } ∧
          made.readable = true ∧ ∃ c ∈ condition, c.truthy = true ∧ made.meets c = false := by
  rcases @check_entity checker rule condition own value world with ⟨hworld, haccepts⟩
  have hrefused : (entity condition world.store value).1.isOk = false := by
    apply Bool.eq_false_iff.2
    intro haccepted
    have hok := haccepts haccepted
    rw [Outcome.isOk, Option.isNone_iff_eq_none] at hok
    simp [Outcome.code?, hok] at rejected
  have hkept : ∀ made after, Derives world.store value made after →
      (checker.check value rule world).2 = { world with store := some after } := by
    intro made after hderives
    rw [hworld, hderives.resolved_eq]
  refine ⟨⟨fun hsame made after hderives => ?_, fun hnone => ?_⟩, fun made after hderives => ?_⟩
  · rw [hkept made after hderives] at hsame
    exact hderives.ne (congrArg World.store hsame)
  · rw [hworld, resolved_snd hnone]
  · exact ⟨hkept made after hderives, hderives.readable, hderives.unmet hrefused⟩

/-- A record that is made from the JSON text of a descriptor and refused because of its owner, which
is the owner of the prototype: the store keeps it behind the prototype. -/
theorem entity_rejection_derived :
    let proto : Entity := ⟨.stored 0, "/types/book", "ann", true⟩
    let store : EntityStore := ⟨[("/types/book", proto)], 0, 1⟩
    let condition := Value.map [("owner", .str "bob")]
    let rule := Rule.entityWhere condition
    let value := Value.str "\x7b\"proto\":\"/types/book\",\"parent\":\"/books\"\x7d"
    let made : Entity := ⟨.stored 1, "/books/new1", "ann", true⟩
    let after : EntityStore := ⟨[("/types/book", proto), ("/books/new1", made)], 1, 2⟩
    rule.filters = [.entity (some condition)] ∧
      (Checker.bare.check value rule ⟨some store, []⟩).1.code? = some Kind.entity.name ∧
      Derives (some store) value made after ∧
      (Checker.bare.check value rule ⟨some store, []⟩).2 = ⟨some after, []⟩ := by
  intro proto store condition rule value made after
  have hrefers : EntityRef.ofValue? value = some (.derive "/types/book" (some "/books")) := by
    decide +kernel
  have huri : store.derivedUri (some "/books") = "/books/new1" := by decide +kernel
  have hknown : store.records.lookup "/types/book" = some proto := by decide
  have hmade : made = ⟨.stored store.nextSerial, store.derivedUri (some "/books"), proto.owner,
      true⟩ := by rw [huri]
  have hput : Entries.put made.uri made store.records = after.records := by decide
  have hmakes := EntityStore.Makes.derived hknown hmade
  rw [hput] at hmakes
  have hderives : Derives (some store) value made after := ⟨store, _, rfl, hrefers, hmakes⟩
  have hrejected : (Checker.bare.check value rule ⟨some store, []⟩).1.code? =
      some Kind.entity.name := by
    rcases exists_check_eq Checker.bare value rule with ⟨step, hstep⟩
    have hrule : Checker.bare.check value rule = checkEntity (some condition) value :=
      hstep.trans (runWith_ofFilter _ _ _ _)
    have hrefused : entity (some condition) (some store) value =
        (.fail .null (faultOf .entity "Entity does not match the condition"), some after) := by
      rw [entity, hderives.resolved_eq]
      rfl
    rw [hrule, checkEntity, hrefused]
    rfl
  refine ⟨rfl, hrejected, hderives, ?_⟩
  exact ((entity_rejection rfl value ⟨some store, []⟩ hrejected).2 made after hderives).1

/-- A refusal that leaves a record in the store which was not there before. -/
theorem entity_rejection_adds :
    let proto : Entity := ⟨.stored 0, "/types/book", "ann", true⟩
    let world : World := ⟨some ⟨[("/types/book", proto)], 0, 1⟩, []⟩
    let rule := Rule.entityWhere (.map [("owner", .str "bob")])
    let answer := Checker.bare.check (.map [("proto", .str "/types/book")]) rule world
    answer.1.code? = some Kind.entity.name ∧
      world.store.map (Entries.keys ·.records) = some ["/types/book"] ∧
      answer.2.store.map (Entries.keys ·.records) = some ["/types/book", "/new1"] := by
  exact ⟨by decide +kernel, rfl, by decide +kernel⟩

end Checker

end Assay
