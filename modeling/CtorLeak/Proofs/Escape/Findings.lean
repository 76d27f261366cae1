import CtorLeak.Escape.Finding
import CtorLeak.Proofs.Escape.Scan

/-!
# What is found, without the search

`Leak.Holds` says what a leak means in terms of the code alone, and `Leak.Precedes` in which order
leaks are listed.  The findings are the leaks that hold, each once and in this order
(`findings_spec`).
-/

namespace CtorLeak

/-! ## Leaks -/

/-- A call that is looked at, with the descriptor of what it runs: any method but the root class's
constructor, and a dynamic call site on demand. -/
inductive IsCheckedCall (includeDynamic : Bool) : Instruction → String → Prop where
  | method (mode : InvokeMode) (m : MethodRef)
      (h : ¬ (m.owner.text = "java/lang/Object" ∧ m.name.text = "<init>")) :
      IsCheckedCall includeDynamic (.invoke mode m) m.descriptor
  | dynamic (site : DynamicCallSite) (h : includeDynamic = true) :
      IsCheckedCall includeDynamic (.invokeDynamic site) site.descriptor

/-- The member that the instruction at a site uses, as reports name it. -/
def Instruction.describeTarget? : Instruction → Option String
  | invoke _ m => some s!"{m.owner.text}.{m.name.text}{m.descriptor}"
  | invokeDynamic site => some s!"invokedynamic {site.name.text}{site.descriptor}"
  | putField f | putStatic f => some s!"{f.owner.text}.{f.name.text}"
  | _ => none

/-- Position `index` holds a load of the object under construction, on whatever type. -/
def LoadsThisAt (code : List Instruction) (index : Nat) : Prop :=
  ∃ type, code[index]? = some (.load type 0)

namespace Leak

/-- What a leak says of the code. -/
def Holds (includeDynamic : Bool) (code : List Instruction) : Leak → Prop
  | argument call load target =>
    ∃ i descriptor, code[call]? = some i ∧ IsCheckedCall includeDynamic i descriptor ∧
      load < call ∧ LoadsThisAt code load ∧
      valuesBetween code load call < argumentCount descriptor ∧ i.describeTarget? = some target
  | store index field =>
    ∃ i f, code[index]? = some i ∧ (i = .putField f ∨ i = .putStatic f) ∧
      0 < index ∧ LoadsThisAt code (index - 1) ∧ i.describeTarget? = some field

/-- Arguments come before stores.  Arguments are listed by their call and, for one call, from the
last to the first; stores are listed by their position. -/
def Precedes : Leak → Leak → Prop
  | argument call load _, argument call' load' _ => call < call' ∨ call = call' ∧ load' < load
  | argument _ _ _, store _ _ => True
  | store _ _, argument _ _ _ => False
  | store index _, store index' _ => index < index'

theorem not_precedes_self (l : Leak) : ¬ l.Precedes l := by
  cases l <;> simp [Precedes]

end Leak

/-! ## Sites -/

theorem Instruction.isThisLoad_iff (i : Instruction) :
    i.isThisLoad = true ↔ ∃ type, i = .load type 0 := by
  constructor
  · intro h
    cases i with
    | load type slot =>
      have hslot : slot = 0 := by
        simpa [isThisLoad, effect, Effect.isThisLoad, Effect.thisSlot] using h
      exact ⟨type, by rw [hslot]⟩
    | stack op => cases op <;> cases h
    | _ => cases h
  · rintro ⟨type, rfl⟩
    rfl

theorem loadsThisAt_iff (code : List Instruction) (index : Nat) :
    LoadsThisAt code index ↔ ∃ i, code[index]? = some i ∧ i.isThisLoad = true := by
  constructor
  · rintro ⟨type, h⟩
    exact ⟨_, h, rfl⟩
  · rintro ⟨i, h, hi⟩
    obtain ⟨type, rfl⟩ := (Instruction.isThisLoad_iff i).1 hi
    exact ⟨type, h⟩

section Indexed

variable {α β γ : Type} (g : α → Option β) (mk : Nat → β → γ)

/-- What a search through a list makes of its entries and their positions. -/
theorem mem_filterMap_zipIdx_iff (l : List α) (c : γ) :
    c ∈ l.zipIdx.filterMap (fun p => (g p.1).map (mk p.2)) ↔
      ∃ index a b, l[index]? = some a ∧ g a = some b ∧ mk index b = c := by
  rw [List.mem_filterMap]
  constructor
  · rintro ⟨⟨a, index⟩, hmem, h⟩
    obtain ⟨b, hb, rfl⟩ := Option.map_eq_some_iff.1 h
    exact ⟨index, a, b, List.mem_zipIdx_iff_getElem?.1 hmem, hb, rfl⟩
  · rintro ⟨index, a, b, ha, hb, rfl⟩
    exact ⟨(a, index), List.mem_zipIdx_iff_getElem?.2 ha, by simp [hb]⟩

theorem pairwise_filterMap_zipIdx (position : γ → Nat)
    (h : ∀ index b, position (mk index b) = index) (l : List α) :
    (l.zipIdx.filterMap fun p => (g p.1).map (mk p.2)).Pairwise
      fun c c' => position c < position c' := by
  rw [List.pairwise_filterMap]
  refine (pairwise_zipIdx l).imp ?_
  intro p q hpq c hc c' hc'
  obtain ⟨b, -, rfl⟩ := Option.map_eq_some_iff.1 hc
  obtain ⟨b', -, rfl⟩ := Option.map_eq_some_iff.1 hc'
  rw [h, h]
  exact hpq

end Indexed

theorem mem_callSites_iff (includeDynamic : Bool) (code : List Instruction) (site : CallSite) :
    site ∈ callSites includeDynamic code ↔
      ∃ i, code[site.index]? = some i ∧ i.callee? = some site.callee ∧
        site.callee.isRelevant includeDynamic = true := by
  refine (mem_filterMap_zipIdx_iff (fun i : Instruction =>
    i.callee?.filter (Callee.isRelevant includeDynamic)) CallSite.mk code site).trans ?_
  constructor
  · rintro ⟨index, i, callee, hi, hcallee, rfl⟩
    exact ⟨i, hi, Option.filter_eq_some_iff.1 hcallee⟩
  · rintro ⟨i, hi, hcallee⟩
    exact ⟨site.index, i, site.callee, hi, Option.filter_eq_some_iff.2 hcallee, rfl⟩

theorem mem_storeSites_iff (code : List Instruction) (site : StoreSite) :
    site ∈ storeSites code ↔
      ∃ i, code[site.index]? = some i ∧ i.storedField? = some site.field := by
  refine (mem_filterMap_zipIdx_iff Instruction.storedField? StoreSite.mk code site).trans ?_
  constructor
  · rintro ⟨index, i, field, hi, hfield, rfl⟩
    exact ⟨i, hi, hfield⟩
  · rintro ⟨i, hi, hfield⟩
    exact ⟨site.index, i, site.field, hi, hfield, rfl⟩

theorem pairwise_callSites (includeDynamic : Bool) (code : List Instruction) :
    (callSites includeDynamic code).Pairwise fun a b => a.index < b.index :=
  pairwise_filterMap_zipIdx (fun i : Instruction =>
    i.callee?.filter (Callee.isRelevant includeDynamic)) CallSite.mk CallSite.index
    (fun _ _ => rfl) code

theorem pairwise_storeSites (code : List Instruction) :
    (storeSites code).Pairwise fun a b => a.index < b.index :=
  pairwise_filterMap_zipIdx Instruction.storedField? StoreSite.mk StoreSite.index
    (fun _ _ => rfl) code

/-- The calls that are looked at are those whose callee can let `this` out. -/
theorem isCheckedCall_iff (includeDynamic : Bool) (i : Instruction) (descriptor : String) :
    IsCheckedCall includeDynamic i descriptor ↔
      ∃ callee, i.callee? = some callee ∧ callee.isRelevant includeDynamic = true ∧
        callee.descriptor = descriptor := by
  have hinit : ∀ m : MethodRef, (!m.isObjectInit) = true ↔
      ¬ (m.owner.text = "java/lang/Object" ∧ m.name.text = "<init>") := by
    intro m
    simp only [MethodRef.isObjectInit, BinaryName.object, UnqualifiedName.init, Bool.not_eq_true',
      ← Bool.not_eq_true, Bool.and_eq_true, beq_iff_eq, BinaryName.ext_iff, UnqualifiedName.ext_iff]
  constructor
  · intro h
    cases h with
    | method mode m h => exact ⟨.method m, rfl, (hinit m).2 h, rfl⟩
    | dynamic site h => exact ⟨.dynamic site, rfl, h, rfl⟩
  · rintro ⟨callee, hcallee, hrel, rfl⟩
    cases i with
    | invoke mode m =>
      cases hcallee
      exact .method mode m ((hinit m).1 hrel)
    | invokeDynamic site =>
      cases hcallee
      exact .dynamic site hrel
    | _ => cases hcallee

theorem describeTarget?_of_callee? (i : Instruction) (callee : Callee)
    (h : i.callee? = some callee) : i.describeTarget? = some callee.describe := by
  cases i with
  | invoke mode m => cases h; rfl
  | invokeDynamic site => cases h; rfl
  | _ => cases h

theorem describeTarget?_of_storedField? (i : Instruction) (f : FieldRef)
    (h : i.storedField? = some f) : i.describeTarget? = some f.describe := by
  cases i with
  | putField f => cases h; rfl
  | putStatic f => cases h; rfl
  | _ => cases h

theorem storedField?_eq_some_iff (i : Instruction) (f : FieldRef) :
    i.storedField? = some f ↔ i = .putField f ∨ i = .putStatic f := by
  cases i <;> simp [Instruction.storedField?]

/-! ## Leaks at a site -/

theorem mem_thisArguments_iff (code : List Instruction) (call arguments load : Nat) :
    load ∈ thisArguments code call arguments ↔
      load < call ∧ LoadsThisAt code load ∧ valuesBetween code load call < arguments := by
  unfold thisArguments
  rw [List.mem_map, loadsThisAt_iff]
  constructor
  · rintro ⟨step, hstep, rfl⟩
    obtain ⟨hmem, hthis⟩ := List.mem_filter.1 hstep
    obtain ⟨i, hi, hlt, heffect, hcount⟩ := (mem_scanBack_iff _ _ _ _).1 hmem
    refine ⟨hlt, ⟨i, hi, ?_⟩, hcount⟩
    show i.effect.isThisLoad = true
    rw [← heffect]
    exact hthis
  · rintro ⟨hlt, ⟨i, hi, hthis⟩, hcount⟩
    refine ⟨⟨load, i.effect⟩, List.mem_filter.2 ⟨?_, hthis⟩, rfl⟩
    exact (mem_scanBack_iff _ _ _ _).2 ⟨i, hi, hlt, rfl, hcount⟩

theorem pairwise_thisArguments (code : List Instruction) (call arguments : Nat) :
    (thisArguments code call arguments).Pairwise fun a b => b < a := by
  unfold thisArguments
  rw [List.pairwise_map]
  exact (pairwise_scanBack code call arguments).filter _

theorem isSome_thisStored?_iff (code : List Instruction) (index : Nat) :
    (thisStored? code index).isSome = true ↔ 0 < index ∧ LoadsThisAt code (index - 1) := by
  rw [loadsThisAt_iff]
  cases index with
  | zero => simp [thisStored?]
  | succ previous =>
    cases hi : code[previous]? with
    | none => simp [thisStored?, hi]
    | some i =>
      by_cases hthis : i.isThisLoad = true
      · simp [thisStored?, hi, hthis, Effect.pushes_of_isThisLoad hthis]
      · simp [thisStored?, hi, hthis]

/-! ## Leaks of a constructor -/

theorem argument_mem_leaks_iff (includeDynamic : Bool) (code : List Instruction)
    (call load : Nat) (target : String) :
    .argument call load target ∈ leaks includeDynamic code ↔
      Leak.Holds includeDynamic code (.argument call load target) := by
  unfold leaks leakingCalls
  simp only [List.mem_append, List.mem_map, List.mem_flatMap, reduceCtorEq, and_false, exists_false,
    or_false]
  constructor
  · rintro ⟨_, ⟨site, hsite, l, hl, rfl⟩, heq⟩
    simp only [Leak.argument.injEq] at heq
    obtain ⟨rfl, rfl, rfl⟩ := heq
    obtain ⟨i, hi, hcallee, hrel⟩ := (mem_callSites_iff _ _ _).1 hsite
    obtain ⟨hlt, hthis, hcount⟩ := (mem_thisArguments_iff _ _ _ _).1 hl
    exact ⟨i, _, hi, (isCheckedCall_iff _ _ _).2 ⟨_, hcallee, hrel, rfl⟩, hlt, hthis, hcount,
      describeTarget?_of_callee? i _ hcallee⟩
  · rintro ⟨i, descriptor, hi, hcall, hlt, hthis, hcount, htarget⟩
    obtain ⟨callee, hcallee, hrel, rfl⟩ := (isCheckedCall_iff _ _ _).1 hcall
    rw [describeTarget?_of_callee? i _ hcallee] at htarget
    cases htarget
    have hsite : ⟨call, callee⟩ ∈ callSites includeDynamic code :=
      (mem_callSites_iff _ _ _).2 ⟨i, hi, hcallee, hrel⟩
    exact ⟨(⟨call, callee⟩, load), ⟨⟨call, callee⟩, hsite, load,
      (mem_thisArguments_iff _ _ _ _).2 ⟨hlt, hthis, hcount⟩, rfl⟩, rfl⟩

theorem store_mem_leaks_iff (includeDynamic : Bool) (code : List Instruction)
    (index : Nat) (field : String) :
    .store index field ∈ leaks includeDynamic code ↔
      Leak.Holds includeDynamic code (.store index field) := by
  unfold leaks leakingStores
  simp only [List.mem_append, List.mem_map, List.mem_filter, reduceCtorEq, and_false, exists_false,
    false_or, isSome_thisStored?_iff]
  constructor
  · rintro ⟨site, ⟨hsite, hpos, hthis⟩, heq⟩
    simp only [Leak.store.injEq] at heq
    obtain ⟨rfl, rfl⟩ := heq
    obtain ⟨i, hi, hfield⟩ := (mem_storeSites_iff _ _).1 hsite
    exact ⟨i, site.field, hi, (storedField?_eq_some_iff _ _).1 hfield, hpos, hthis,
      describeTarget?_of_storedField? i _ hfield⟩
  · rintro ⟨i, f, hi, hstore, hpos, hthis, htext⟩
    have hfield := (storedField?_eq_some_iff i f).2 hstore
    rw [describeTarget?_of_storedField? i f hfield] at htext
    cases htext
    exact ⟨⟨index, f⟩, ⟨(mem_storeSites_iff _ _).2 ⟨i, hi, hfield⟩, hpos, hthis⟩, rfl⟩

theorem mem_leaks_iff (includeDynamic : Bool) (code : List Instruction) (l : Leak) :
    l ∈ leaks includeDynamic code ↔ l.Holds includeDynamic code := by
  cases l with
  | argument call load target => exact argument_mem_leaks_iff _ _ _ _ _
  | store index field => exact store_mem_leaks_iff _ _ _ _

/-- The arguments of one call stay together, so the order of the calls is the first that counts. -/
theorem pairwise_leaks (includeDynamic : Bool) (code : List Instruction) :
    (leaks includeDynamic code).Pairwise Leak.Precedes := by
  unfold leaks leakingCalls leakingStores
  rw [List.pairwise_append]
  refine ⟨?_, ?_, ?_⟩
  · rw [List.pairwise_map, List.pairwise_flatMap]
    refine ⟨fun site _ => ?_, (pairwise_callSites includeDynamic code).imp ?_⟩
    · rw [List.pairwise_map]
      refine (pairwise_thisArguments code site.index site.arguments).imp ?_
      intro load load' h
      exact Or.inr ⟨rfl, h⟩
    · intro site site' h x hx y hy
      obtain ⟨load, -, rfl⟩ := List.mem_map.1 hx
      obtain ⟨load', -, rfl⟩ := List.mem_map.1 hy
      exact Or.inl h
  · rw [List.pairwise_map]
    exact (pairwise_storeSites code).filter _
  · intro x hx y hy
    obtain ⟨_, -, rfl⟩ := List.mem_map.1 hx
    obtain ⟨_, -, rfl⟩ := List.mem_map.1 hy
    trivial

/-! ## Top theorem -/

/-- The findings of a constructor are exactly the leaks that hold of its code, each once, calls
before stores. -/
theorem findings_spec (owner : BinaryName) (includeDynamic : Bool) (code : List Instruction) :
    (∀ f : Finding, f ∈ findings owner includeDynamic code ↔
      f.owner = owner ∧ f.leak.Holds includeDynamic code) ∧
    (findings owner includeDynamic code).Nodup ∧
    (findings owner includeDynamic code).Pairwise fun f g => f.leak.Precedes g.leak := by
  have hsorted : (findings owner includeDynamic code).Pairwise
      fun f g => f.leak.Precedes g.leak := by
    unfold findings
    rw [List.pairwise_map]
    exact pairwise_leaks includeDynamic code
  refine ⟨fun f => ?_, hsorted.imp ?_, hsorted⟩
  · unfold findings
    rw [List.mem_map, ← mem_leaks_iff]
    constructor
    · rintro ⟨l, hl, rfl⟩
      exact ⟨rfl, hl⟩
    · rintro ⟨rfl, hl⟩
      exact ⟨f.leak, hl, rfl⟩
  · rintro f g hfg rfl
    exact Leak.not_precedes_self _ hfg

end CtorLeak
