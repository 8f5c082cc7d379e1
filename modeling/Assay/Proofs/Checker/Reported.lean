import Assay.Proofs.Checker.Contract
import Assay.Proofs.Checker.Isolation
import Assay.Proofs.Checker.Suppression
import Assay.Proofs.Container.Members
import Assay.Proofs.Rule.Naming
import Assay.Rule.Typed

/-!
# Reported faults — what a fault tells of its rule

Where no hook answers, all faults are made by filters with a meaning of their own and by containers.

* `Fault.Complete` says that every node has a code and a message, and only containers have children;
* `Rule.Names` lists the codes that a rule can report, with those of its alternatives;
* `check_fault_sound` states both of the fault of a check, and that the rule lets it through.
-/

namespace Assay

/-- Every node has a code and a message, and only nodes for containers have children. -/
inductive Fault.Complete : Fault → Prop where
  | intro {code : String} {message : Message} {children : List (String × Fault)}
      (parent : children ≠ [] → code = Kind.arrays.name)
      (below : ∀ child ∈ children, Complete child.2) : Complete ⟨some code, some message, children⟩

/-- The code is the name of a filter of the rule that judges by itself, or such a code of an
alternative that a filter offers. -/
inductive Rule.Names : Rule → String → Prop where
  | own {rule : Rule} {filter : Filter Rule} {kind : Kind} (mem : filter ∈ rule.filters)
      (known : filter.kind? = some kind) (judges : kind ≠ .any) : Names rule filter.name
  | alternative {rule other : Rule} {alternatives : List Rule} {code : String}
      (mem : .any alternatives ∈ rule.filters) (offered : other ∈ alternatives)
      (names : Names other code) : Names rule code

/-- Every fault of the outcome is complete. -/
def Outcome.Complete (outcome : Outcome) : Prop :=
  ∀ fault, outcome.fault = some fault → fault.Complete

/-- Every fault of the outcome is complete, and has a code that the rule names. -/
def Rule.Accounts (rule : Rule) (outcome : Outcome) : Prop :=
  ∀ fault, outcome.fault = some fault →
    fault.Complete ∧ ∃ code, fault.code = some code ∧ rule.Names code

/-! ## Faults without children -/

/-- A leaf with a code and a message is complete. -/
theorem Fault.complete_of_childless (code : String) (message : Message) :
    Fault.Complete ⟨some code, some message, []⟩ := by
  refine .intro (fun h => absurd rfl h) fun child hchild => ?_
  cases hchild

theorem Rule.accounts_ok (rule : Rule) (value : Value) : rule.Accounts (.ok value) := by
  intro fault hfault
  cases hfault

/-- What a filter reports under its own name, the rule accounts for. -/
theorem Rule.accounts_of_blames {rule : Rule} {filter : Filter Rule} {kind : Kind}
    {outcome : Outcome} (hmem : filter ∈ rule.filters) (hkind : filter.kind? = some kind)
    (hjudges : kind ≠ .any) (h : outcome.Blames kind) : rule.Accounts outcome := by
  intro fault hfault
  rcases h fault hfault with ⟨message, rfl⟩
  refine ⟨Fault.complete_of_childless _ message, kind.name, rfl, ?_⟩
  rw [← Filter.name_of_kind? hkind]
  exact .own hmem hkind hjudges

namespace Checker

variable {checker : Checker} {step : Option Step} {shape : Shape Rule} {whole : Rule}

/-! ## Containers -/

/-- If the step to members reports complete faults, so does the container. -/
theorem memberFaults_complete {next : Step}
    (hnext : ∀ rule value, Ensures (next rule value) Outcome.Complete)
    (entries : List (String × Value)) :
    Ensures (checkMembers next shape whole entries) fun members =>
      ∀ entry ∈ memberFaults members, entry.2.Complete := by
  refine memberFaults_ensures (p := fun _ fault => fault.Complete)
    (fun entry _ => ?_) (fun entry _ rule _ => hnext rule entry.2) (fun entry _ => ?_)
  · exact Fault.complete_of_childless _ _
  · exact Fault.complete_of_childless _ _

/-- The fault of a container is accounted for by its filter, and those below by the next level. -/
theorem checkContainer_accounts (hmem : .arrays shape ∈ whole.filters)
    (hstep : ∀ next ∈ step, ∀ rule value, Ensures (next rule value) Outcome.Complete)
    (value : Value) : Ensures (checkContainer step shape whole value) whole.Accounts := by
  have hkind : (Filter.arrays shape).kind? = some Kind.arrays := rfl
  have hnames : whole.Names Kind.arrays.name := .own hmem hkind (by decide)
  refine checkContainer_ensures whole.accounts_ok (fun template => ?_) fun next hnext _ => ?_
  · intro fault hfault
    cases hfault
    exact ⟨Fault.complete_of_childless _ _, _, rfl, hnames⟩
  · refine (memberFaults_complete (hstep next hnext) _).mono fun members hmembers result => ?_
    intro fault hfault
    cases hfault
    exact ⟨.intro (fun _ => rfl) hmembers, _, rfl, hnames⟩

/-! ## Rules -/

/-- What a filter records is accounted for by the rule that it stands in. -/
theorem apply_accounts (hookless : checker.registry.isEmpty = true) {filter : Filter Rule}
    (hmem : filter ∈ whole.filters)
    (hheld : ∀ rule ∈ filter.rules, ∀ value,
      Ensures (checker.runWith step rule value) rule.Accounts)
    (hstep : ∀ next ∈ step, ∀ rule value, Ensures (next rule value) Outcome.Complete)
    (value : Value) : Ensures (checker.apply step whole filter value) whole.Accounts := by
  cases filter with
  | any alternatives =>
      -- What an alternative names, the rule names through its filter.
      refine firstAccepted_ensures (whole.accounts_ok value) fun other hother => ?_
      refine (hheld other hother value).mono fun outcome houtcome fault hfault => ?_
      rcases houtcome fault hfault with ⟨hcomplete, code, hcode, hnames⟩
      exact ⟨hcomplete, code, hcode, .alternative hmem hother hnames⟩
  | arrays shape => exact checkContainer_accounts hmem hstep value
  | custom name arguments =>
      change Ensures (checkCustom checker name arguments whole value) whole.Accounts
      rw [checkCustom_of_isEmpty hookless]
      exact .pure (whole.accounts_ok value)
  | _ =>
      refine apply_simple rfl (fun kind outcome hkind hjudges hblames => ?_) value
      exact Rule.accounts_of_blames hmem hkind hjudges hblames

/-- What a rule records is accounted for by it, by induction on the rule. -/
theorem runWith_accounts (hookless : checker.registry.isEmpty = true)
    (hstep : ∀ next ∈ step, ∀ rule value, Ensures (next rule value) Outcome.Complete)
    (rule : Rule) (value : Value) :
    Ensures (checker.runWith step rule value) rule.Accounts := by
  induction rule using Rule.nested_induction generalizing value with
  | step rule ih =>
      refine runWith_ensures rule.accounts_ok (fun filter hfilter value => ?_) value
      exact apply_accounts hookless hfilter (fun held hheld => ih filter hfilter held hheld) hstep
        value

/-- By induction on the levels: the next one reports complete faults. -/
theorem run_accounts (hookless : checker.registry.isEmpty = true) (levels : Nat) (rule : Rule)
    (value : Value) : Ensures (checker.run levels rule value) rule.Accounts := by
  induction levels generalizing rule value with
  | zero => exact runWith_accounts hookless (fun _ hnext => by cases hnext) rule value
  | succ levels ih =>
      refine runWith_accounts hookless (fun next hnext other member => ?_) rule value
      cases hnext
      exact (ih other member).mono fun outcome h fault hfault => (h fault hfault).1

/-- Without hooks, the fault of a check says what is wrong with the value.  The rule has no default.
The code is one that the rule does not ignore: the name of a filter of the rule that judges by
itself, or of one of an alternative.  Every node has a code and a message, and only the nodes of
containers have children. -/
theorem check_fault_sound {checker : Checker} {rule : Rule} {value : Value} {world : World}
    {fault : Fault} (hookless : checker.registry.isEmpty = true)
    (refused : (checker.check value rule world).1.fault = some fault) :
    rule.default = none ∧
      (∃ code, fault.code = some code ∧ rule.ignores code = false ∧ rule.Names code) ∧
      fault.Complete := by
  rcases run_accounts hookless checker.settings.maxDepth rule value world fault refused with
    ⟨hcomplete, code, hcode, hnames⟩
  rcases run_lets checker.settings.maxDepth rule value world fault refused with
    ⟨hdefault, hunignored⟩
  exact ⟨hdefault, ⟨code, hcode, hunignored code hcode, hnames⟩, hcomplete⟩

/-- A map is no integer, and as a container it is refused for both of its keys.  The rule ignores
the code of its first alternative, which is also that of a child. -/
theorem check_fault_sound_alternatives :
    let pair := Rule.arrays [("a", Rule.int), ("b", Rule.bool.requiring)]
    let rule := (Rule.any [Rule.int, pair]).ignoring ["int"]
    let fault := containerFault
      [("a", Check.faultOf .int "Invalid integer"), ("b", requiredFault)]
    Checker.bare.registry.isEmpty = true ∧
      (Checker.bare.check (.map [("a", .str "x")]) rule World.bare).1.fault = some fault ∧
      rule.default = none ∧
      (∃ code, fault.code = some code ∧ rule.ignores code = false ∧ rule.Names code) ∧
      fault.Complete := by
  intro pair rule fault
  have hrefused :
      (Checker.bare.check (.map [("a", .str "x")]) rule World.bare).1.fault = some fault := rfl
  exact ⟨rfl, hrefused, check_fault_sound rfl hrefused⟩

end Checker

end Assay
