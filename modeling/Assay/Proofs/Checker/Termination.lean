import Assay.Proofs.Checker.Depth
import Assay.Proofs.Checker.Meter
import Assay.Proofs.Container.Congruence
import Assay.Rule.Typed

/-!
# Termination — every check ends within its depth budget

A tree applies a rule to its members again, so the rule need not get smaller, and filters before it
can make the value larger.  What gets smaller is the number of levels that are left, and where a
call stays at its level, the rule.

* `Metered.Follows` says that a metered computation ends as a plain one does, and how deep it goes;
* `Metered.run_follows` states it of runs whose stack has room for every level and rule;
* `check_terminates` is the case of a check: some height of the stack is enough for all values.
-/

namespace Assay

namespace Metered

open Checker

variable {α β : Type} {limit : Nat}

/-- The metered computation does not break off, answers and leaves the world as the plain one does,
and enters runs only at depths up to the limit. -/
def Follows (limit : Nat) (metered : Metered α) (plain : StateM World α) : Prop :=
  ∀ meter : Meter, ∃ entered : List Nat, (∀ depth ∈ entered, depth ≤ limit) ∧
    metered meter =
      .ok ((plain meter.world).1, ⟨(plain meter.world).2, meter.entered ++ entered⟩)

namespace Follows

theorem pure (a : α) : Follows limit (Pure.pure a) (Pure.pure a) := by
  intro meter
  refine ⟨[], by simp, ?_⟩
  rw [List.append_nil]
  rfl

theorem ofCheck (check : StateM World α) : Follows limit (Metered.ofCheck check) check := by
  intro meter
  refine ⟨[], by simp, ?_⟩
  rw [List.append_nil]
  rfl

/-- Metered computations follow one after the other if each follows. -/
theorem bind {first : Metered α} {next : α → Metered β} {plain : StateM World α}
    {plainNext : α → StateM World β} (hfirst : Follows limit first plain)
    (hnext : ∀ a, Follows limit (next a) (plainNext a)) :
    Follows limit (first >>= next) (plain >>= plainNext) := by
  intro meter
  rcases hfirst meter with ⟨before, hbefore, hstart⟩
  rcases hnext (plain meter.world).1
    ⟨(plain meter.world).2, meter.entered ++ before⟩ with ⟨after, hafter, hend⟩
  refine ⟨before ++ after, ?_, ?_⟩
  · intro depth hdepth
    rcases List.mem_append.1 hdepth with hmem | hmem
    · exact hbefore depth hmem
    · exact hafter depth hmem
  · have hrun : (first >>= next) meter = first meter >>= fun answer => next answer.1 answer.2 := rfl
    rw [hrun, hstart, ← List.append_assoc]
    exact hend

end Follows

/-- Following goes through containers. -/
def following (limit : Nat) : Congruence Metered (StateM World) :=
  ⟨Follows limit, .pure, .bind⟩

/-! ## Rules -/

section Rules

variable {checker : Checker} {bits : Nat} {call : Call} {depth : Nat}

/-- Below the greatest depth, the next one fits into a word. -/
theorem callDeeper_eq (fits : checker.settings.maxDepth < 2 ^ bits)
    (shallow : depth < checker.settings.maxDepth) (rule : Rule) (value : Value) :
    callDeeper bits call depth rule value = call (depth + 1) rule value := by
  have hword : depth + 1 < 2 ^ bits := by omega
  unfold callDeeper deeper
  rw [if_pos hword]
  rfl

/-- Members are called one level deeper by both, unless both are at the greatest depth. -/
theorem memberCall_related (fits : checker.settings.maxDepth < 2 ^ bits) {rule : Rule}
    (hdeeper : depth < checker.settings.maxDepth → ∀ value,
      Follows limit (call (depth + 1) rule value) (checker.runAt (depth + 1) rule value)) :
    (following limit).StepRelated (memberCall checker bits call depth) (checker.stepAt depth)
      rule := by
  rcases Nat.lt_or_ge depth checker.settings.maxDepth with hshallow | hdeep
  · have hcall : memberCall checker bits call depth = some (callDeeper bits call depth) :=
      if_neg (Nat.not_le.2 hshallow)
    rw [hcall, stepAt_of_lt checker hshallow]
    refine .some fun value => ?_
    rw [callDeeper_eq fits hshallow]
    exact hdeeper hshallow value
  · have hcall : memberCall checker bits call depth = none := if_pos hdeep
    have hstep : checker.stepAt depth = none := if_neg (Nat.not_lt.2 hdeep)
    rw [hcall, hstep]
    exact .none

/-- The accepted alternative is the same if every alternative is followed. -/
theorem firstAccepted_follows {alternatives : List Rule}
    (hheld : ∀ rule ∈ alternatives, ∀ value,
      Follows limit (call depth rule value) (checker.runAt depth rule value))
    (last : Outcome) (value : Value) :
    Follows limit (firstAccepted call depth last alternatives value)
      (checker.firstAccepted (checker.stepAt depth) last alternatives value) := by
  induction alternatives generalizing last with
  | nil => exact .pure last
  | cons rule rest ih =>
      have hrule := hheld rule (by simp) value
      rw [runAt_eq] at hrule
      refine .bind hrule fun outcome => ?_
      cases outcome.isOk with
      | true => exact .pure outcome
      | false => exact ih (fun other hother => hheld other (by simp [hother])) outcome

/-- A metered filter follows the plain one, as long as the depth can be counted. -/
theorem apply_follows (fits : checker.settings.maxDepth < 2 ^ bits) {whole : Rule}
    {filter : Filter Rule}
    (hheld : ∀ rule ∈ filter.rules, ∀ value,
      Follows limit (call depth rule value) (checker.runAt depth rule value))
    (hdeeper : depth < checker.settings.maxDepth →
      ∀ rule, rule = whole ∨ rule ∈ filter.rules → ∀ value,
        Follows limit (call (depth + 1) rule value) (checker.runAt (depth + 1) rule value))
    (value : Value) :
    Follows limit (apply checker bits call depth whole filter value)
      (checker.applyAt depth whole filter value) := by
  cases filter with
  | any alternatives => exact firstAccepted_follows hheld (.ok value) value
  | arrays shape =>
      exact (following limit).checkContainer
        (fun rule hrule => memberCall_related fits fun hshallow => hdeeper hshallow rule hrule) value
  | entity condition => exact .ofCheck (checkEntity condition value)
  | custom name arguments => exact .ofCheck (checkCustom checker name arguments whole value)
  | _ => exact .pure _

/-- A metered walk follows the plain one if its filters do. -/
theorem applyAll_follows {whole : Rule} {filters : List (Filter Rule)}
    (h : ∀ filter ∈ filters, ∀ value,
      Follows limit (apply checker bits call depth whole filter value)
        (checker.applyAt depth whole filter value)) (value : Value) :
    Follows limit (applyAll checker bits call depth whole filters value)
      (checker.applyAll (checker.stepAt depth) whole filters value) := by
  induction filters generalizing value with
  | nil => exact .pure _
  | cons filter rest ih =>
      refine .bind (h filter (by simp) value) fun outcome => ?_
      cases continues whole outcome with
      | true => exact ih (fun other hother => h other (by simp [hother])) outcome.value
      | false => exact .pure outcome

/-- Entering a run is recorded, and nothing else happens. -/
theorem Follows.enter {computation : Metered α} {plain : StateM World α} (hdepth : depth ≤ limit)
    (h : Follows limit computation plain) :
    Follows limit (Metered.enter depth >>= fun _ => computation) plain := by
  intro meter
  rcases h { meter with entered := meter.entered ++ [depth] } with ⟨after, hafter, hend⟩
  refine ⟨depth :: after, ?_, ?_⟩
  · intro other hother
    rcases List.mem_cons.1 hother with rfl | hmem
    · exact hdepth
    · exact hafter other hmem
  · have hsplit : meter.entered ++ depth :: after = meter.entered ++ [depth] ++ after := by simp
    rw [hsplit]
    exact hend

/-- One level deeper, a rule that is no higher needs less of the stack. -/
theorem levels_mul_lt {greatest height lower : Nat} (shallow : depth < greatest)
    (hpos : 0 < height) (hle : lower ≤ height) :
    (greatest - (depth + 1) + 1) * lower < (greatest - depth + 1) * height := by
  have hlevels : greatest - (depth + 1) + 1 = greatest - depth := by omega
  have hmul : (greatest - depth) * lower ≤ (greatest - depth) * height := Nat.mul_le_mul_left _ hle
  rw [hlevels, Nat.succ_mul]
  omega

/-- By induction on the height of the stack: every call needs less room than the run that it is made
from, either at the same depth for a smaller rule, or one level deeper. -/
theorem run_follows (fits : checker.settings.maxDepth < 2 ^ bits) {height : Nat} (rule : Rule)
    (hdepth : depth ≤ checker.settings.maxDepth)
    (hroom : (checker.settings.maxDepth - depth + 1) * rule.height ≤ height) (value : Value) :
    Follows checker.settings.maxDepth (run checker bits height depth rule value)
      (checker.runAt depth rule value) := by
  induction height generalizing depth rule value with
  | zero =>
      have hpos : 0 < (checker.settings.maxDepth - depth + 1) * rule.height :=
        Nat.mul_pos (Nat.succ_pos _) rule.height_pos
      omega
  | succ height ih =>
      rw [runAt_eq, runWith_eq]
      refine .enter hdepth (.bind (applyAll_follows (fun filter hfilter value => ?_) value) ?_)
      -- Alternatives are smaller; deeper calls may be for the rule itself, as a tree makes them.
      · refine apply_follows fits (fun held hheld value => ?_) (fun hshallow next hnext value => ?_)
          value
        · have hlt : (checker.settings.maxDepth - depth + 1) * held.height <
              (checker.settings.maxDepth - depth + 1) * rule.height :=
            Nat.mul_lt_mul_of_pos_left (Rule.height_lt_of_mem_rules hfilter hheld) (Nat.succ_pos _)
          exact ih held hdepth (by omega) value
        · have hle : next.height ≤ rule.height := by
            rcases hnext with rfl | hmem
            · exact Nat.le_refl _
            · exact Nat.le_of_lt (Rule.height_lt_of_mem_rules hfilter hmem)
          have hlt := levels_mul_lt hshallow rule.height_pos hle
          have hdeeper : depth + 1 ≤ checker.settings.maxDepth := hshallow
          exact ih next hdeeper (by omega) value
      · exact fun outcome => .pure _

end Rules

end Metered

namespace Checker

/-- A check ends, whatever the value and the world.  With room on the stack for as many calls as the
rule is high, at every depth from zero to the greatest, it comes to its answer: the stack never
overflows, every depth fits into a word, and no run is entered beyond the greatest depth. -/
theorem check_terminates {checker : Checker} {bits height : Nat} {rule : Rule}
    (fits : checker.settings.maxDepth < 2 ^ bits)
    (room : (checker.settings.maxDepth + 1) * rule.height ≤ height) (value : Value)
    (world : World) :
    ∃ entered : List Nat,
      Metered.run checker bits height 0 rule value ⟨world, []⟩ =
          .ok ((checker.check value rule world).1,
            ⟨(checker.check value rule world).2, entered⟩) ∧
        ∀ depth ∈ entered, depth ≤ checker.settings.maxDepth := by
  have hfollows := Metered.run_follows fits rule (Nat.zero_le _) room value
  rcases hfollows ⟨world, []⟩ with ⟨entered, hentered, hend⟩
  exact ⟨entered, hend, hentered⟩

/-- Before it looks into the value, the rule wraps it, so that there is always one more container to
enter.  A run is entered at every depth, and the last container is refused.  The depths are just
those that fit into two bits. -/
theorem check_terminates_growing :
    let settings : Settings := { Settings.standard with maxDepth := 3 }
    let wrap : Normalizer := fun value => some (.map [("again", .list [value])])
    let checker : Checker := ⟨settings, .empty, some wrap⟩
    let rule := Rule.condition.tree
    let check := checker.check .null rule World.bare
    checker.settings.maxDepth < 2 ^ 2 ∧ (checker.settings.maxDepth + 1) * rule.height ≤ 4 ∧
      check.1.isOk = false ∧
      ∃ entered : List Nat,
        Metered.run checker 2 4 0 rule .null ⟨World.bare, []⟩ =
          .ok (check.1, ⟨check.2, entered⟩) ∧ (∀ depth ∈ entered, depth ≤ 3) ∧
        entered = [0, 1, 2, 3] := by
  intro settings wrap checker rule check
  have hfits : checker.settings.maxDepth < 2 ^ 2 := by decide
  have hroom : (checker.settings.maxDepth + 1) * rule.height ≤ 4 := by
    have hheight : rule.height = 1 := by
      rw [Rule.height]
      rfl
    rw [hheight]
    decide
  obtain ⟨entered, hend, hdepths⟩ := check_terminates hfits hroom .null World.bare
  have hrun : Metered.run checker 2 4 0 rule .null ⟨World.bare, []⟩ =
      .ok (check.1, ⟨check.2, [0, 1, 2, 3]⟩) := rfl
  rw [hrun] at hend
  cases hend
  exact ⟨hfits, hroom, rfl, _, hrun, hdepths, rfl⟩

end Checker

end Assay
