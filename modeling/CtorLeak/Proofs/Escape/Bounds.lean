import CtorLeak.Proofs.Escape.Findings

/-!
# How much can be found

A constructor has only so many places where `this` can get out: the arguments of the calls that are
looked at, and the stores.  An argument is known by its call and by how many values are pushed
between it and the call, which is what the walk back counts; duplications and allocations may
stretch the walk, but they do not give it another argument.

No two leaks share a place (`nodup_place`), so that any list of places that has those of some leaks
is at least as long as there are such leaks (`countP_leaks_le`), and just as long if `this` gets out
at all of them (`countP_leaks_eq_iff`).  All bounds of `findings_bounded` come from lists of this
kind.
-/

namespace CtorLeak

/-! ## Places -/

/-- Where `this` can get out. -/
inductive LeakPlace where
  /-- An argument of a call.  Positions are counted from the last argument to the first. -/
  | argument (call position : Nat)
  | store (index : Nat)
deriving DecidableEq, Repr

/-- The place of a leak in the code that has it. -/
def Leak.place (code : List Instruction) : Leak → LeakPlace
  | argument call load _ => .argument call (valuesBetween code load call)
  | store index _ => .store index

/-- The arguments of a call. -/
def argumentPlaces (call arguments : Nat) : List LeakPlace :=
  (List.range arguments).map (.argument call)

/-- All places that some code has. -/
def leakPlaces (includeDynamic : Bool) (code : List Instruction) : List LeakPlace :=
  (callSites includeDynamic code).flatMap (fun site => argumentPlaces site.index site.arguments) ++
    (storeSites code).map (fun site => .store site.index)

/-- The arguments of several calls. -/
def totalArguments (sites : List CallSite) : Nat :=
  sites.foldr (fun site count => site.arguments + count) 0

theorem mem_argumentPlaces_iff (call arguments : Nat) (place : LeakPlace) :
    place ∈ argumentPlaces call arguments ↔
      ∃ position < arguments, place = .argument call position := by
  simp only [argumentPlaces, List.mem_map, List.mem_range, eq_comm]

theorem length_argumentPlaces (call arguments : Nat) :
    (argumentPlaces call arguments).length = arguments := by
  rw [argumentPlaces, List.length_map, List.length_range]

theorem nodup_argumentPlaces (call arguments : Nat) : (argumentPlaces call arguments).Nodup := by
  unfold argumentPlaces List.Nodup
  rw [List.pairwise_map]
  refine List.nodup_range.imp ?_
  intro position position' hne heq
  cases heq
  exact hne rfl

theorem length_flatMap_argumentPlaces (sites : List CallSite) :
    (sites.flatMap fun site => argumentPlaces site.index site.arguments).length =
      totalArguments sites := by
  induction sites with
  | nil => rfl
  | cons site sites ih =>
    rw [List.flatMap_cons, List.length_append, ih, length_argumentPlaces]
    rfl

theorem length_leakPlaces (includeDynamic : Bool) (code : List Instruction) :
    (leakPlaces includeDynamic code).length =
      totalArguments (callSites includeDynamic code) + (storeSites code).length := by
  rw [leakPlaces, List.length_append, length_flatMap_argumentPlaces, List.length_map]

/-! ## Leaks do not share places -/

/-- A load is a value itself, so that the loads before it are farther from the call by one at
least. -/
theorem valuesBetween_lt_of_lt {code : List Instruction} {load load' call : Nat}
    (hthis : LoadsThisAt code load') (hlt : load < load') (hcall : load' < call) :
    valuesBetween code load' call < valuesBetween code load call := by
  unfold valuesBetween
  obtain ⟨type, htype⟩ := hthis
  have hget : (code.take call)[load']? = some (.load type 0) := by
    rw [List.getElem?_take_of_lt hcall, htype]
  have hsplit : (code.take call).drop load' =
      .load type 0 :: (code.take call).drop (load' + 1) := by
    obtain ⟨hlen, heq⟩ := List.getElem?_eq_some_iff.1 hget
    rw [List.drop_eq_getElem_cons hlen, heq]
  have hsublist : ((code.take call).drop load').Sublist ((code.take call).drop (load + 1)) :=
    List.drop_sublist_drop_left _ hlt
  have hcount : ((code.take call).drop load').countP Instruction.standsForValue ≤
      ((code.take call).drop (load + 1)).countP Instruction.standsForValue :=
    hsublist.countP_le
  rw [hsplit, List.countP_cons_of_pos rfl] at hcount
  omega

theorem valuesBetween_inj {code : List Instruction} {load load' call : Nat}
    (hload : LoadsThisAt code load) (hload' : LoadsThisAt code load') (hlt : load < call)
    (hlt' : load' < call) (h : valuesBetween code load call = valuesBetween code load' call) :
    load = load' := by
  rcases Nat.lt_trichotomy load load' with hcmp | hcmp | hcmp
  · have := valuesBetween_lt_of_lt hload' hcmp hlt'
    omega
  · exact hcmp
  · have := valuesBetween_lt_of_lt hload hcmp hlt
    omega

section Leaks

variable {includeDynamic : Bool} {code : List Instruction}

/-- The place of a leak and the code together give the leak. -/
theorem Leak.place_inj {l l' : Leak} (h : l.Holds includeDynamic code)
    (h' : l'.Holds includeDynamic code) (hplace : l.place code = l'.place code) : l = l' := by
  cases l with
  | argument call load target =>
    cases l' with
    | store index field => cases hplace
    | argument call' load' target' =>
      simp only [place, LeakPlace.argument.injEq] at hplace
      obtain ⟨rfl, hposition⟩ := hplace
      obtain ⟨i, descriptor, hi, -, hlt, hthis, -, htarget⟩ := h
      obtain ⟨i', descriptor', hi', -, hlt', hthis', -, htarget'⟩ := h'
      rw [hi] at hi'
      cases hi'
      rw [htarget] at htarget'
      cases htarget'
      rw [valuesBetween_inj hthis hthis' hlt hlt' hposition]
  | store index field =>
    cases l' with
    | argument call load target => cases hplace
    | store index' field' =>
      cases hplace
      obtain ⟨i, f, hi, -, -, -, hfield⟩ := h
      obtain ⟨i', f', hi', -, -, -, hfield'⟩ := h'
      rw [hi] at hi'
      cases hi'
      rw [hfield] at hfield'
      cases hfield'
      rfl

theorem nodup_place (includeDynamic : Bool) (code : List Instruction) :
    ((leaks includeDynamic code).map (Leak.place code)).Nodup := by
  unfold List.Nodup
  rw [List.pairwise_map]
  refine (pairwise_leaks includeDynamic code).imp_of_mem ?_
  intro l l' hl hl' hprecedes hplace
  rw [mem_leaks_iff] at hl hl'
  rw [Leak.place_inj hl hl' hplace] at hprecedes
  exact Leak.not_precedes_self l' hprecedes

/-- The places of all leaks of a kind. -/
def placesOf (includeDynamic : Bool) (code : List Instruction) (kind : Leak → Bool) :
    List LeakPlace :=
  ((leaks includeDynamic code).filter kind).map (Leak.place code)

theorem length_placesOf (kind : Leak → Bool) :
    (placesOf includeDynamic code kind).length = (leaks includeDynamic code).countP kind := by
  rw [placesOf, List.length_map, ← List.countP_eq_length_filter]

theorem nodup_placesOf (kind : Leak → Bool) : (placesOf includeDynamic code kind).Nodup :=
  (nodup_place includeDynamic code).sublist (List.filter_sublist.map _)

theorem mem_placesOf_iff (kind : Leak → Bool) (place : LeakPlace) :
    place ∈ placesOf includeDynamic code kind ↔
      ∃ l : Leak, l.Holds includeDynamic code ∧ kind l = true ∧ l.place code = place := by
  simp only [placesOf, List.mem_map, List.mem_filter, mem_leaks_iff, and_assoc]

section Counting

variable {kind : Leak → Bool} {places : List LeakPlace}
  (h : ∀ l : Leak, l.Holds includeDynamic code → kind l = true → l.place code ∈ places)

include h

theorem placesOf_subset : placesOf includeDynamic code kind ⊆ places := by
  intro place hmem
  obtain ⟨l, hl, hkind, rfl⟩ := (mem_placesOf_iff _ _).1 hmem
  exact h l hl hkind

/-- There are no more leaks of a kind than places that they can be at. -/
theorem countP_leaks_le : (leaks includeDynamic code).countP kind ≤ places.length := by
  rw [← length_placesOf]
  exact (nodup_placesOf kind).length_le_of_subset (placesOf_subset h)

/-- There are as many only if no place is without a leak. -/
theorem countP_leaks_eq_iff (hplaces : places.Nodup) :
    (leaks includeDynamic code).countP kind = places.length ↔
      ∀ place ∈ places, ∃ l : Leak, l.Holds includeDynamic code ∧ kind l = true ∧
        l.place code = place := by
  simp only [← mem_placesOf_iff]
  have hsubset := placesOf_subset h
  rw [← length_placesOf]
  constructor
  · intro hlength place hplace
    -- a place without a leak would leave too few for the others
    refine Decidable.byContradiction fun hfree => ?_
    have hnodup : (place :: placesOf includeDynamic code kind).Nodup :=
      List.nodup_cons.2 ⟨hfree, nodup_placesOf kind⟩
    have hle := hnodup.length_le_of_subset (List.cons_subset.2 ⟨hplace, hsubset⟩)
    rw [List.length_cons] at hle
    omega
  · intro hall
    exact Nat.le_antisymm ((nodup_placesOf kind).length_le_of_subset hsubset)
      (hplaces.length_le_of_subset hall)

end Counting

theorem Leak.place_mem_leakPlaces {l : Leak} (h : l.Holds includeDynamic code) :
    l.place code ∈ leakPlaces includeDynamic code := by
  unfold leakPlaces
  rw [List.mem_append, List.mem_flatMap, List.mem_map]
  cases l with
  | argument call load target =>
    left
    obtain ⟨i, descriptor, hi, hcall, -, -, hcount, -⟩ := h
    obtain ⟨callee, hcallee, hrelevant, rfl⟩ := (isCheckedCall_iff _ _ _).1 hcall
    refine ⟨⟨call, callee⟩, (mem_callSites_iff _ _ _).2 ⟨i, hi, hcallee, hrelevant⟩, ?_⟩
    exact (mem_argumentPlaces_iff _ _ _).2 ⟨_, hcount, rfl⟩
  | store index field =>
    right
    obtain ⟨i, f, hi, hstore, -⟩ := h
    have hfield := (storedField?_eq_some_iff i f).2 hstore
    exact ⟨⟨index, f⟩, (mem_storeSites_iff _ _).2 ⟨i, hi, hfield⟩, rfl⟩

end Leaks

/-! ## Findings at a call and at a store -/

namespace Leak

def isArgumentOf (call : Nat) : Leak → Bool
  | argument call' _ _ => call' == call
  | store _ _ => false

def isStoreAt (index : Nat) : Leak → Bool
  | argument _ _ _ => false
  | store index' _ => index' == index

end Leak

/-- How many findings report an argument of the call at a position. -/
def argumentFindings (call : Nat) (found : List Finding) : Nat :=
  found.countP fun f => f.leak.isArgumentOf call

/-- How many findings report the store at a position. -/
def storeFindings (index : Nat) (found : List Finding) : Nat :=
  found.countP fun f => f.leak.isStoreAt index

/-- Position `index` holds a call, looked at or not, of something with the given descriptor. -/
inductive CallsAt (code : List Instruction) (index : Nat) : String → Prop where
  | method (mode : InvokeMode) (m : MethodRef) (h : code[index]? = some (.invoke mode m)) :
      CallsAt code index m.descriptor
  | dynamic (site : DynamicCallSite) (h : code[index]? = some (.invokeDynamic site)) :
      CallsAt code index site.descriptor

theorem IsCheckedCall.callsAt {includeDynamic : Bool} {code : List Instruction} {index : Nat}
    {i : Instruction} {descriptor : String} (h : IsCheckedCall includeDynamic i descriptor)
    (hi : code[index]? = some i) : CallsAt code index descriptor := by
  cases h with
  | method mode m _ => exact .method mode m hi
  | dynamic site _ => exact .dynamic site hi

theorem IsCheckedCall.exists_describeTarget {includeDynamic : Bool} {i : Instruction}
    {descriptor : String} (h : IsCheckedCall includeDynamic i descriptor) :
    ∃ target, i.describeTarget? = some target := by
  cases h <;> exact ⟨_, rfl⟩

section Calls

variable {includeDynamic : Bool} {code : List Instruction} {call load : Nat} {target : String}

/-- The descriptor at a call is the one that its arguments are counted by. -/
theorem position_lt_of_holds {descriptor : String} (hcall : CallsAt code call descriptor)
    (h : Leak.Holds includeDynamic code (.argument call load target)) :
    valuesBetween code load call < argumentCount descriptor := by
  obtain ⟨i, descriptor', hi, hchecked, -, -, hcount, -⟩ := h
  have heq : descriptor' = descriptor := by
    cases hcall with
    | method mode m hm =>
      rw [hi] at hm
      cases hm
      cases hchecked
      rfl
    | dynamic site hsite =>
      rw [hi] at hsite
      cases hsite
      cases hchecked
      rfl
  rwa [heq] at hcount

theorem not_holds_of_objectInit {mode : InvokeMode} {m : MethodRef}
    (hcode : code[call]? = some (.invoke mode m)) (howner : m.owner.text = "java/lang/Object")
    (hname : m.name.text = "<init>") :
    ¬ Leak.Holds includeDynamic code (.argument call load target) := by
  rintro ⟨i, descriptor, hi, hchecked, -⟩
  rw [hcode] at hi
  cases hi
  cases hchecked with
  | method _ _ h => exact h ⟨howner, hname⟩

end Calls

section Counts

variable (owner : BinaryName) (includeDynamic : Bool) (code : List Instruction)

theorem countP_findings (kind : Leak → Bool) :
    (findings owner includeDynamic code).countP (fun f => kind f.leak) =
      (leaks includeDynamic code).countP kind := by
  unfold findings
  rw [List.countP_map]
  rfl

theorem mem_findings_iff (l : Leak) :
    ⟨owner, l⟩ ∈ findings owner includeDynamic code ↔ l.Holds includeDynamic code := by
  rw [← mem_leaks_iff, findings, List.mem_map]
  simp

theorem place_mem_of_isArgumentOf {call : Nat} {places : List LeakPlace}
    (h : ∀ load target, Leak.Holds includeDynamic code (.argument call load target) →
      .argument call (valuesBetween code load call) ∈ places)
    (l : Leak) (hl : l.Holds includeDynamic code) (hkind : l.isArgumentOf call = true) :
    l.place code ∈ places := by
  cases l with
  | argument call' load target =>
    cases eq_of_beq hkind
    exact h load target hl
  | store index field => cases hkind

theorem place_mem_of_isStoreAt (index : Nat) (l : Leak) (_ : l.Holds includeDynamic code)
    (hkind : l.isStoreAt index = true) : l.place code ∈ [LeakPlace.store index] := by
  cases l with
  | argument call load target => cases hkind
  | store index' field =>
    cases eq_of_beq hkind
    exact List.mem_singleton.2 rfl

/-- The places of the arguments that a call's descriptor gives it. -/
theorem place_mem_of_callsAt {call : Nat} {descriptor : String}
    (hcall : CallsAt code call descriptor) (load : Nat) (target : String)
    (h : Leak.Holds includeDynamic code (.argument call load target)) :
    .argument call (valuesBetween code load call) ∈
      argumentPlaces call (argumentCount descriptor) :=
  (mem_argumentPlaces_iff _ _ _).2 ⟨_, position_lt_of_holds hcall h, rfl⟩

theorem argumentFindings_le {call : Nat} {descriptor : String}
    (hcall : CallsAt code call descriptor) :
    argumentFindings call (findings owner includeDynamic code) ≤ argumentCount descriptor := by
  unfold argumentFindings
  rw [countP_findings, ← length_argumentPlaces call (argumentCount descriptor)]
  exact countP_leaks_le (place_mem_of_isArgumentOf includeDynamic code
    (place_mem_of_callsAt includeDynamic code hcall))

/-- All arguments of a call are reported if `this` is in each of their places. -/
theorem argumentFindings_eq_iff {call : Nat} {i : Instruction} {descriptor : String}
    (hi : code[call]? = some i) (hcall : IsCheckedCall includeDynamic i descriptor) :
    argumentFindings call (findings owner includeDynamic code) = argumentCount descriptor ↔
      ∀ position < argumentCount descriptor, ∃ load < call, LoadsThisAt code load ∧
        valuesBetween code load call = position := by
  have hcount := countP_leaks_eq_iff (place_mem_of_isArgumentOf includeDynamic code
    (place_mem_of_callsAt includeDynamic code (hcall.callsAt hi)))
    (nodup_argumentPlaces call (argumentCount descriptor))
  unfold argumentFindings
  rw [countP_findings]
  rw [length_argumentPlaces] at hcount
  rw [hcount]
  constructor
  · intro hall position hposition
    obtain ⟨l, hl, -, hplace⟩ :=
      hall _ ((mem_argumentPlaces_iff _ _ _).2 ⟨position, hposition, rfl⟩)
    cases l with
    | argument call' load target =>
      cases hplace
      obtain ⟨-, -, -, -, hlt, hthis, -⟩ := hl
      exact ⟨load, hlt, hthis, rfl⟩
    | store index field => cases hplace
  · intro hall place hplace
    obtain ⟨position, hposition, rfl⟩ := (mem_argumentPlaces_iff _ _ _).1 hplace
    obtain ⟨load, hlt, hthis, rfl⟩ := hall position hposition
    obtain ⟨target, htarget⟩ := hcall.exists_describeTarget
    exact ⟨.argument call load target, ⟨i, descriptor, hi, hcall, hlt, hthis, hposition, htarget⟩,
      beq_self_eq_true call, rfl⟩

theorem storeFindings_le_one (index : Nat) :
    storeFindings index (findings owner includeDynamic code) ≤ 1 := by
  unfold storeFindings
  rw [countP_findings]
  exact countP_leaks_le (place_mem_of_isStoreAt includeDynamic code index)

theorem storeFindings_eq_one_iff {index : Nat} {i : Instruction} {f : FieldRef}
    (hi : code[index]? = some i) (hstore : i = .putField f ∨ i = .putStatic f) :
    storeFindings index (findings owner includeDynamic code) = 1 ↔
      0 < index ∧ LoadsThisAt code (index - 1) := by
  have hcount := countP_leaks_eq_iff (place_mem_of_isStoreAt includeDynamic code index) (by simp)
  unfold storeFindings
  rw [countP_findings]
  refine hcount.trans ?_
  rw [List.forall_mem_singleton]
  constructor
  · rintro ⟨l, hl, -, hplace⟩
    cases l with
    | argument call load target => cases hplace
    | store index' field =>
      cases hplace
      obtain ⟨-, -, -, -, hpos, hthis, -⟩ := hl
      exact ⟨hpos, hthis⟩
  · rintro ⟨hpos, hthis⟩
    obtain ⟨field, hfield⟩ : ∃ field, i.describeTarget? = some field := by
      rcases hstore with rfl | rfl <;> exact ⟨_, rfl⟩
    exact ⟨.store index field, ⟨i, f, hi, hstore, hpos, hthis, hfield⟩,
      beq_self_eq_true index, rfl⟩

theorem length_findings_le :
    (findings owner includeDynamic code).length ≤
      totalArguments (callSites includeDynamic code) + (storeSites code).length := by
  have hall : (leaks includeDynamic code).countP (fun _ => true) ≤
      (leakPlaces includeDynamic code).length :=
    countP_leaks_le fun l hl _ => l.place_mem_leakPlaces hl
  rw [← length_leakPlaces, findings, List.length_map]
  rwa [List.countP_true] at hall

end Counts

/-! ## Top theorem -/

/-- What bounds the findings of a constructor: one for each argument of a call, one for each
store.  The bounds of a call and of a store are met where `this` is all there is. -/
structure FindingsBounded (owner : BinaryName) (includeDynamic : Bool) (code : List Instruction) :
    Prop where
  arguments : ∀ call descriptor, CallsAt code call descriptor →
    argumentFindings call (findings owner includeDynamic code) ≤ argumentCount descriptor
  arguments_eq : ∀ call i descriptor, code[call]? = some i →
    IsCheckedCall includeDynamic i descriptor →
      (argumentFindings call (findings owner includeDynamic code) = argumentCount descriptor ↔
        ∀ position < argumentCount descriptor, ∃ load < call, LoadsThisAt code load ∧
          valuesBetween code load call = position)
  position_lt : ∀ call descriptor, CallsAt code call descriptor → ∀ load target,
    ⟨owner, .argument call load target⟩ ∈ findings owner includeDynamic code →
      valuesBetween code load call < argumentCount descriptor
  position_inj : ∀ call load target load' target',
    ⟨owner, .argument call load target⟩ ∈ findings owner includeDynamic code →
    ⟨owner, .argument call load' target'⟩ ∈ findings owner includeDynamic code →
    valuesBetween code load call = valuesBetween code load' call →
      load = load' ∧ target = target'
  stores : ∀ index, storeFindings index (findings owner includeDynamic code) ≤ 1
  stores_eq : ∀ index i f, code[index]? = some i → i = .putField f ∨ i = .putStatic f →
    (storeFindings index (findings owner includeDynamic code) = 1 ↔
      0 < index ∧ LoadsThisAt code (index - 1))
  total : (findings owner includeDynamic code).length ≤
    totalArguments (callSites includeDynamic code) + (storeSites code).length
  unreadable : ∀ call descriptor e, CallsAt code call descriptor →
    MethodDescriptor.ofDescriptor descriptor = .error e →
      argumentFindings call (findings owner includeDynamic code) = 0
  objectInit : ∀ call mode m, code[call]? = some (.invoke mode m) →
    m.owner.text = "java/lang/Object" → m.name.text = "<init>" →
      argumentFindings call (findings owner includeDynamic code) = 0

/-- No argument of a call and no store is reported twice. -/
theorem findings_bounded (owner : BinaryName) (includeDynamic : Bool) (code : List Instruction) :
    FindingsBounded owner includeDynamic code where
  arguments _ _ hcall := argumentFindings_le owner includeDynamic code hcall
  arguments_eq _ _ _ hi hcall := argumentFindings_eq_iff owner includeDynamic code hi hcall
  position_lt call descriptor hcall load target hfound :=
    position_lt_of_holds hcall ((mem_findings_iff _ _ _ _).1 hfound)
  position_inj call load target load' target' hfound hfound' hposition := by
    rw [mem_findings_iff] at hfound hfound'
    have heq := Leak.place_inj hfound hfound' (congrArg (LeakPlace.argument call) hposition)
    simpa using heq
  stores := storeFindings_le_one owner includeDynamic code
  stores_eq _ _ _ hi hstore := storeFindings_eq_one_iff owner includeDynamic code hi hstore
  total := length_findings_le owner includeDynamic code
  unreadable call descriptor e hcall herror := by
    have hle := argumentFindings_le owner includeDynamic code hcall
    rw [argumentCount_of_error herror] at hle
    exact Nat.le_zero.1 hle
  objectInit call mode m hcode howner hname := by
    have hnone : (leaks includeDynamic code).countP (Leak.isArgumentOf call) ≤
        ([] : List LeakPlace).length :=
      countP_leaks_le (place_mem_of_isArgumentOf includeDynamic code fun load target hl =>
        absurd hl (not_holds_of_objectInit hcode howner hname))
    rw [← countP_findings owner] at hnone
    exact Nat.le_zero.1 hnone

-- A call of two arguments, both `this`, is reported twice and no more, whatever lies between them.
example : argumentFindings 3 (findings .object true [.load .ref 0, .stack .dup, .load .ref 0,
    .invokeDynamic ⟨0, ⟨"both", by decide⟩, "(II)V"⟩]) = 2 := by
  decide +kernel

end CtorLeak
