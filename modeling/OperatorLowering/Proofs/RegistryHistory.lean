import OperatorLowering.Config

/-!
Histories of registries. A registry answers as the declarations it was made of do, in their order;
the declarations of a registry that was added to it follow those it had.
-/

namespace OperatorLowering

namespace Registry

/-- A declaration about a callable or an event. -/
inductive Mark where
  | exit (id : CallableId)
  | event (name : String)
  | discouraged (id : CallableId) (message : String) (level : CallLevel)
  deriving Repr, DecidableEq, Inhabited

def mark (r : Registry) : Mark → Registry
  | .exit id => r.markExit id
  | .event name => r.markEvent name
  | .discouraged id message level => r.markDiscouraged id message level

def markAll (r : Registry) (marks : List Mark) : Registry := marks.foldl mark r

inductive History where
  | new
  | mark (h : History) (m : Mark)
  | extend (h other : History)

namespace History

def registry : History → Registry
  | new => empty
  | mark h m => h.registry.mark m
  | extend h other => h.registry.extend other.registry

/-- The declarations of a history, those of each registry that was added in its place. -/
def marks : History → List Mark
  | new => []
  | mark h m => h.marks ++ [m]
  | extend h other => h.marks ++ other.marks

end History

/-- The issue that a declaration gives to calls of the callable. -/
def Mark.issue? (id : CallableId) : Mark → Option DiscouragedCall
  | discouraged id' message level =>
    if id' = id ∧ Text.isBlank message = false then some ⟨message, level⟩ else none
  | exit _ | event _ => none

def lastIssue? (marks : List Mark) (id : CallableId) : Option DiscouragedCall :=
  marks.reverse.findSome? (Mark.issue? id)

/-- The call is as the last declaration of the callable says whose message is not blank. -/
def IsLastIssue (marks : List Mark) (id : CallableId) (call : DiscouragedCall) : Prop :=
  Text.isBlank call.message = false ∧
    ∃ before after, marks = before ++ .discouraged id call.message call.level :: after ∧
      ∀ message level, .discouraged id message level ∈ after → Text.isBlank message = true

/-- The registry holds what the declarations say. -/
structure Reflects (r : Registry) (marks : List Mark) : Prop where
  exits : ∀ id, id ∈ r.exits ↔ .exit id ∈ marks
  events : ∀ event, event ∈ r.events ↔ .event event ∈ marks
  issues : ∀ id, r.discouraged.lookup id = lastIssue? marks id
  notBlank : ∀ entry ∈ r.discouraged, Text.isBlank entry.2.message = false

/-- No question tells the two registries apart. -/
structure SameAnswers (r r' : Registry) : Prop where
  isExit : ∀ id, r.isExit id = r'.isExit id
  isExitSlot : ∀ slot, r.isExitSlot slot = r'.isExitSlot slot
  isExitEvent : ∀ event, r.isExitEvent event = r'.isExitEvent event
  discouragedCall? : ∀ slot, r.discouragedCall? slot = r'.discouragedCall? slot

variable {r r' : Registry} {marks marks' : List Mark}

theorem Mark.issue?_eq_some_iff {id : CallableId} {m : Mark} {call : DiscouragedCall}
    : m.issue? id = some call ↔
        Text.isBlank call.message = false ∧ m = .discouraged id call.message call.level := by
  cases m with
  | discouraged id' message level =>
    simp only [issue?, Option.ite_none_right_eq_some, Option.some.injEq]
    constructor
    . rintro ⟨⟨rfl, hmessage⟩, rfl⟩
      exact ⟨hmessage, rfl⟩
    . rintro ⟨hmessage, ⟨rfl, rfl, rfl⟩⟩
      exact ⟨⟨rfl, hmessage⟩, rfl⟩
  | _ => simp [issue?]

theorem Mark.issue?_eq_none_iff {id : CallableId} {m : Mark}
    : m.issue? id = none ↔
        ∀ message level, m = .discouraged id message level → Text.isBlank message = true := by
  rw [Option.eq_none_iff_forall_ne_some]
  constructor
  . rintro h message level rfl
    have := h ⟨message, level⟩
    rw [Ne, issue?_eq_some_iff] at this
    simpa using this
  . intro h call hcall
    obtain ⟨hmessage, rfl⟩ := issue?_eq_some_iff.mp hcall
    rw [h call.message call.level rfl] at hmessage
    contradiction

theorem lastIssue?_append (marks marks' : List Mark) (id : CallableId)
    : lastIssue? (marks ++ marks') id = (lastIssue? marks' id).or (lastIssue? marks id) := by
  unfold lastIssue?
  rw [List.reverse_append, List.findSome?_append]

theorem lastIssue?_eq_some_iff {id : CallableId} {call : DiscouragedCall}
    : lastIssue? marks id = some call ↔ IsLastIssue marks id call := by
  unfold lastIssue? IsLastIssue
  rw [List.findSome?_eq_some_iff]
  constructor
  . rintro ⟨after, m, before, hmarks, hissue, hafter⟩
    obtain ⟨hmessage, rfl⟩ := Mark.issue?_eq_some_iff.mp hissue
    refine ⟨hmessage, before.reverse, after.reverse, ?_, ?_⟩
    . rw [← List.reverse_reverse marks, hmarks]
      simp
    . intro message level hmem
      have := hafter _ (List.mem_reverse.mp hmem)
      exact Mark.issue?_eq_none_iff.mp this message level rfl
  . rintro ⟨hmessage, before, after, rfl, hafter⟩
    refine ⟨after.reverse, _, before.reverse, ?_, Mark.issue?_eq_some_iff.mpr ⟨hmessage, rfl⟩, ?_⟩
    . simp
    . intro m hm
      rw [Mark.issue?_eq_none_iff]
      rintro message level rfl
      exact hafter message level (List.mem_reverse.mp hm)

theorem reflects_empty : Reflects empty [] := by
  constructor <;> simp [empty, lastIssue?]

theorem reflects_mark (m : Mark) : Reflects (empty.mark m) [m] := by
  cases m with
  | exit id => constructor <;> simp [mark, markExit, empty, lastIssue?, Mark.issue?]
  | event name => constructor <;> simp [mark, markEvent, empty, lastIssue?, Mark.issue?]
  | discouraged id message level =>
    cases h : Text.isBlank message with
    | true =>
      have hmark : empty.mark (.discouraged id message level) = empty := if_pos h
      rw [hmark]
      constructor <;> simp [empty, lastIssue?, Mark.issue?, h]
    | false =>
      have hmark : empty.mark (.discouraged id message level) =
          ⟨[], [], [(id, ⟨message, level⟩)]⟩ := if_neg (by simp [h])
      rw [hmark]
      constructor
      . simp
      . simp
      . intro id'
        by_cases hid : id = id'
        . simp [lastIssue?, Mark.issue?, h, hid]
        . have : (id' == id) = false := beq_eq_false_iff_ne.mpr (Ne.symm hid)
          simp [lastIssue?, Mark.issue?, h, hid, List.lookup_cons, this]
      . simp [h]

theorem Reflects.extend (h : Reflects r marks) (h' : Reflects r' marks')
    : Reflects (r.extend r') (marks ++ marks') := by
  constructor
  . intro id
    rw [List.mem_append, ← h.exits, ← h'.exits, or_comm]
    exact List.mem_append
  . intro event
    rw [List.mem_append, ← h.events, ← h'.events, or_comm]
    exact List.mem_append
  . intro id
    rw [lastIssue?_append, ← h.issues, ← h'.issues]
    apply List.lookup_append
  . intro entry hentry
    rcases List.mem_append.mp hentry with hentry | hentry
    . exact h'.notBlank entry hentry
    . exact h.notBlank entry hentry

-- A single declaration is the least registry that can be added.
theorem mark_eq_extend (r : Registry) (m : Mark) : r.mark m = r.extend (empty.mark m) := by
  cases m with
  | discouraged id message level =>
    simp only [mark, markDiscouraged]
    split <;> rfl
  | _ => rfl

theorem Reflects.mark (h : Reflects r marks) (m : Mark) : Reflects (r.mark m) (marks ++ [m]) := by
  rw [mark_eq_extend]
  exact h.extend (reflects_mark m)

theorem Reflects.markAll (h : Reflects r marks) (more : List Mark)
    : Reflects (r.markAll more) (marks ++ more) := by
  unfold Registry.markAll
  induction more generalizing r marks with
  | nil => simpa using h
  | cons m more ih =>
    have := ih (h.mark m)
    rwa [List.append_assoc] at this

theorem reflects_markAll (marks : List Mark) : Reflects (empty.markAll marks) marks :=
  reflects_empty.markAll marks

theorem History.reflects (h : History) : Reflects h.registry h.marks := by
  induction h with
  | new => exact reflects_empty
  | mark h m ih => exact ih.mark m
  | extend h other ih ihOther => exact ih.extend ihOther

theorem Reflects.isExit_iff (h : Reflects r marks) {id : CallableId}
    : r.isExit id = true ↔ .exit id ∈ marks := by
  rw [← h.exits]
  exact List.contains_iff_mem

theorem Reflects.isExitEvent_iff (h : Reflects r marks) {event : String}
    : r.isExitEvent event = true ↔
        ∃ name, .event name ∈ marks ∧ (name = event ∨ Text.lastSegment name = event) := by
  simp [isExitEvent, ← h.events]

theorem Reflects.sameAnswers (h : Reflects r marks) (h' : Reflects r' marks)
    : SameAnswers r r' := by
  have hexit (id : CallableId) : r.isExit id = r'.isExit id := by
    rw [Bool.eq_iff_iff, h.isExit_iff, h'.isExit_iff]
  constructor
  . exact hexit
  . intro slot
    unfold isExitSlot
    rw [funext hexit]
  . intro event
    rw [Bool.eq_iff_iff, h.isExitEvent_iff, h'.isExitEvent_iff]
  . intro slot
    unfold discouragedCall?
    simp only [h.issues, h'.issues]

def builtinMarks : List Mark := builtinExits.map .exit

theorem reflects_builtin : Reflects builtin builtinMarks := reflects_markAll builtinMarks

end Registry

open Registry

namespace Config

/-- The declarations of a configuration, in the order in which they are made. -/
def marks (c : Config) : List Mark :=
  c.callables.map (fun name => .exit ⟨name⟩) ++ c.events.map .event ++
    c.discouraged.map fun e => .discouraged ⟨e.callable⟩ e.message e.level

theorem declarations_eq_markAll (c : Config)
    : c.declarations = Registry.empty.markAll c.marks := by
  unfold declarations marks markAll
  rw [List.foldl_append, List.foldl_append, List.foldl_map, List.foldl_map, List.foldl_map]
  rfl

theorem reflects_registry (c : Config) : Reflects c.registry (builtinMarks ++ c.marks) := by
  unfold registry
  rw [declarations_eq_markAll]
  exact reflects_builtin.extend (reflects_markAll c.marks)

theorem isExit_registry_of_builtin (c : Config) {id : CallableId} (h : id ∈ builtinExits)
    : c.registry.isExit id = true := by
  rw [c.reflects_registry.isExit_iff]
  apply List.mem_append_left
  exact List.mem_map_of_mem h

end Config

/--
Adding a registry is making its declarations again, one after the other. A registry that was built
by declarations and additions knows the exits and events among them, and for each callable the issue
of its last declaration with a message, never a blank one. The registry of a configuration answers
as the built-in declarations followed by the configured ones, which take no built-in exit away.
-/
theorem extending_replays_declarations
    : (∀ marks more : List Mark,
          SameAnswers ((Registry.empty.markAll marks).extend (Registry.empty.markAll more))
            (Registry.empty.markAll (marks ++ more))) ∧
        (∀ h : History,
          SameAnswers h.registry (Registry.empty.markAll h.marks) ∧
            (∀ id, h.registry.isExit id = true ↔ .exit id ∈ h.marks) ∧
            (∀ event, h.registry.isExitEvent event = true ↔
              ∃ name, .event name ∈ h.marks ∧ (name = event ∨ Text.lastSegment name = event)) ∧
            (∀ id call, h.registry.discouragedCall? (.linked id) = some call ↔
              IsLastIssue h.marks id call) ∧
            ∀ entry ∈ h.registry.discouraged, Text.isBlank entry.2.message = false) ∧
        ∀ config : Config,
          SameAnswers config.registry (Registry.empty.markAll (builtinMarks ++ config.marks)) ∧
            ∀ id ∈ builtinExits, config.registry.isExit id = true := by
  refine ⟨?_, ?_, ?_⟩
  . intro marks more
    have hextend := (reflects_markAll marks).extend (reflects_markAll more)
    exact hextend.sameAnswers (reflects_markAll (marks ++ more))
  . intro h
    have hreflects := h.reflects
    refine ⟨hreflects.sameAnswers (reflects_markAll h.marks), ?_, ?_, ?_, hreflects.notBlank⟩
    . intro id
      apply hreflects.isExit_iff
    . intro event
      apply hreflects.isExitEvent_iff
    . intro id call
      rw [← lastIssue?_eq_some_iff, ← hreflects.issues]
      rfl
  . intro config
    refine ⟨config.reflects_registry.sameAnswers (reflects_markAll _), ?_⟩
    intro id hid
    exact config.isExit_registry_of_builtin hid

/-- `legacy` is discouraged, and then again with a blank message in a registry that is added. -/
def Registry.History.redeclared : History :=
  let legacy : CallableId := ⟨"my.Capacity.legacy"⟩
  .extend
    (.mark (.mark .new (.discouraged legacy "Use stop" .info)) (.event "my.Stop"))
    (.mark (.mark .new (.discouraged legacy " \t" .error)) (.exit ⟨"my.Capacity.stop"⟩))

theorem blank_redeclaration_keeps_issue
    : let h := History.redeclared
      let issue : DiscouragedCall := ⟨"Use stop", .info⟩
      h.registry.discouragedCall? (.linked ⟨"my.Capacity.legacy"⟩) = some issue ∧
        IsLastIssue h.marks ⟨"my.Capacity.legacy"⟩ issue ∧
        (⟨"my.Capacity.legacy"⟩, issue) ∈ h.registry.discouraged ∧
        Text.isBlank issue.message = false ∧
        ⟨"io.sarl.core.Lifecycle.killMe"⟩ ∈ builtinExits ∧
        Config.empty.registry.isExit ⟨"io.sarl.core.Lifecycle.killMe"⟩ = true := by
  intro h issue
  have hcall : h.registry.discouragedCall? (.linked ⟨"my.Capacity.legacy"⟩) = some issue := by
    decide +kernel
  have hentry : (⟨"my.Capacity.legacy"⟩, issue) ∈ h.registry.discouraged := by
    decide +kernel
  have hexit : ⟨"io.sarl.core.Lifecycle.killMe"⟩ ∈ builtinExits := by
    decide
  obtain ⟨-, hhistory, hconfig⟩ := extending_replays_declarations
  refine ⟨hcall, ?_, hentry, ?_, hexit, ?_⟩
  . exact ((hhistory h).2.2.2.1 _ _).mp hcall
  . exact (hhistory h).2.2.2.2 _ hentry
  . exact (hconfig .empty).2 _ hexit

end OperatorLowering
