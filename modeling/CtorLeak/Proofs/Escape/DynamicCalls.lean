import Mathlib.Data.List.Flatten
import CtorLeak.Proofs.Check
import CtorLeak.Proofs.Escape.Context

/-!
# Leaving out dynamic calls

Dynamic calls are looked at on demand.  The walk back from another call passes over them either way,
so the option decides only which calls are asked about: without it, the leaks through dynamic calls
are missing, and the others stay as they are (`leaks_false`).

For a class file this means that the option has no influence on whether it can be checked, and that
fewer findings are reported at most (`filtered_checkBytes`).
-/

namespace CtorLeak

/-! ## Constructors -/

namespace Leak

/-- Whether the leak is an argument of a dynamic call. -/
def isDynamic (code : List Instruction) : Leak → Bool
  | argument call _ _ =>
    match code[call]? with
    | some (.invokeDynamic _) => true
    | _ => false
  | store _ _ => false

theorem isDynamic_argument_iff (code : List Instruction) (call load : Nat) (target : String) :
    (argument call load target).isDynamic code = true ↔
      ∃ site, code[call]? = some (.invokeDynamic site) := by
  rw [isDynamic]
  constructor
  · intro h
    split at h
    · rename_i site hsite
      exact ⟨site, hsite⟩
    · cases h
  · rintro ⟨site, hsite⟩
    rw [hsite]

end Leak

theorem isCheckedCall_false_iff (i : Instruction) (descriptor : String) :
    IsCheckedCall false i descriptor ↔
      IsCheckedCall true i descriptor ∧ ∀ site, i ≠ .invokeDynamic site := by
  constructor
  · intro h
    cases h with
    | method mode m hinit => exact ⟨.method mode m hinit, nofun⟩
    | dynamic site h => cases h
  · rintro ⟨h, hne⟩
    cases h with
    | method mode m hinit => exact .method mode m hinit
    | dynamic site h => exact absurd rfl (hne site)

/-- A leak is left out because of its call, and for no other reason. -/
theorem holds_false_iff (code : List Instruction) (l : Leak) :
    l.Holds false code ↔ l.Holds true code ∧ ¬ l.isDynamic code = true := by
  cases l with
  | store index field => simp [Leak.Holds, Leak.isDynamic]
  | argument call load target =>
    rw [Leak.isDynamic_argument_iff]
    constructor
    · rintro ⟨i, descriptor, hi, hcall, hrest⟩
      obtain ⟨hcall, hne⟩ := (isCheckedCall_false_iff i descriptor).1 hcall
      refine ⟨⟨i, descriptor, hi, hcall, hrest⟩, ?_⟩
      rintro ⟨site, hsite⟩
      have heq : i = .invokeDynamic site := Option.some.inj (hi.symm.trans hsite)
      exact hne site heq
    · rintro ⟨⟨i, descriptor, hi, hcall, hrest⟩, hnot⟩
      refine ⟨i, descriptor, hi, (isCheckedCall_false_iff i descriptor).2 ⟨hcall, ?_⟩, hrest⟩
      rintro site rfl
      exact hnot ⟨site, hi⟩

/-- Both lists are in the order of leaks, so that it is enough to compare their members. -/
theorem leaks_false (code : List Instruction) :
    leaks false code = (leaks true code).filter fun l => !l.isDynamic code := by
  refine List.Pairwise.eq_of_mem_iff (r := Leak.Precedes) (pairwise_leaks false code) ?_ ?_
  · exact (pairwise_leaks true code).filter _
  · intro l
    rw [List.mem_filter, mem_leaks_iff, mem_leaks_iff, holds_false_iff, Bool.not_eq_true',
      Bool.not_eq_true]

theorem findings_false (owner : BinaryName) (code : List Instruction) :
    findings owner false code =
      (findings owner true code).filter fun f => !f.leak.isDynamic code := by
  unfold findings
  rw [leaks_false, List.filter_map]
  rfl

/-! ## Class files -/

/-- Two answers that fail alike, or of which the first has findings of the second, in order. -/
inductive Filtered : Except FormatError (List Finding) → Except FormatError (List Finding) → Prop
    where
  | error (e : FormatError) : Filtered (.error e) (.error e)
  | ok {found found' : List Finding} (h : found.Sublist found') : Filtered (.ok found) (.ok found')

section Option

variable (settings : Settings)

theorem bodyFindings_sublist (owner : BinaryName) (bodies : List (List Instruction)) :
    (bodyFindings { settings with includeDynamic := false } owner bodies).Sublist
      (bodyFindings { settings with includeDynamic := true } owner bodies) := by
  refine List.Sublist.flatMap_right bodies ?_
  intro code _
  show (findings owner false code).Sublist (findings owner true code)
  rw [findings_false]
  exact List.filter_sublist

/-- Whatever ends the check of a class ends it with either value of the option. -/
theorem exists_filtered_outcome {c : ClassFile} {before found : List Finding}
    {result : Except FormatError Nat}
    (h : CheckOutcome { settings with includeDynamic := false } c before result found) :
    ∃ result' found', CheckOutcome { settings with includeDynamic := true } c before result' found' ∧
      Filtered (result.map fun _ => found) (result'.map fun _ => found') := by
  cases h with
  | className hname => exact ⟨_, _, .className hname, .error _⟩
  | skipped hname hskip hsynthetic =>
    exact ⟨_, _, .skipped hname hskip hsynthetic, .ok (List.Sublist.refl _)⟩
  | methodName hname hskip hmethods hbefore hm =>
    exact ⟨_, _, .methodName hname hskip hmethods hbefore hm, .error _⟩
  | @checked name bodies hname hskip hmethods hload =>
    refine ⟨_, _, .checked hname hskip hmethods hload, .ok ?_⟩
    exact (List.append_sublist_append_left before).2 (bodyFindings_sublist settings name bodies)
  | failed hname hskip hmethods hconstructors hbefore hm =>
    exact ⟨_, _, .failed hname hskip hmethods hconstructors hbefore hm, .error _⟩

theorem filtered_checkBytes (bytes : List UInt8) :
    Filtered (checkBytes { settings with includeDynamic := false } bytes).toExcept
      (checkBytes { settings with includeDynamic := true } bytes).toExcept := by
  cases hclass : ClassFile.ofBytes bytes with
  | error e =>
    rw [toExcept_checkBytes_of_malformed hclass, toExcept_checkBytes_of_malformed hclass]
    exact .error e
  | ok c =>
    obtain ⟨result, found, hcheck⟩ :=
      ClassFile.exists_checkOutcome { settings with includeDynamic := false } c []
    obtain ⟨result', found', hcheck', hfiltered⟩ := exists_filtered_outcome settings hcheck
    rw [toExcept_checkBytes_of_outcome hclass hcheck, toExcept_checkBytes_of_outcome hclass hcheck']
    exact hfiltered

end Option

/-! ## Top theorem -/

/-- Without dynamic calls, a constructor has the findings that it has with them, in the same order,
less the arguments of dynamic calls.  A class file fails with the same error, or goes through with
some of its findings in the same order. -/
theorem dynamic_calls_filter :
    (∀ (owner : BinaryName) (code : List Instruction),
      findings owner false code =
        (findings owner true code).filter fun f => !f.leak.isDynamic code) ∧
    ∀ (settings : Settings) (bytes : List UInt8),
      Filtered (checkBytes { settings with includeDynamic := false } bytes).toExcept
        (checkBytes { settings with includeDynamic := true } bytes).toExcept :=
  ⟨findings_false, filtered_checkBytes⟩

end CtorLeak
