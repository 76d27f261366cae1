import CtorLeak.Check

/-!
# How checking a class ends

`CheckOutcome` lists the ways in which the check of a class can end, each with its result and with
the findings that are in the report afterwards.  Where the check stops early it is because of the
first thing that goes wrong: the name of the class, then the names of the methods, then the
constructors in their order.

    (c.check settings).outcome report = (result, found) ↔
      CheckOutcome settings c report.findings result found                  (check_outcome_iff)
-/

namespace CtorLeak

/-- A list has a property everywhere, or there is a first place where it fails. -/
theorem forall_or_exists_first {α : Type} (P : α → Prop) (l : List α) :
    (∀ a ∈ l, P a) ∨
      ∃ before a after, l = before ++ a :: after ∧ (∀ b ∈ before, P b) ∧ ¬ P a := by
  induction l with
  | nil => exact .inl (List.forall_mem_nil P)
  | cons a l ih =>
    by_cases ha : P a
    · rcases ih with hl | ⟨before, b, after, rfl, hbefore, hb⟩
      · exact .inl (List.forall_mem_cons.2 ⟨ha, hl⟩)
      · exact .inr ⟨a :: before, b, after, rfl, List.forall_mem_cons.2 ⟨ha, hbefore⟩, hb⟩
    · exact .inr ⟨[], a, l, rfl, List.forall_mem_nil P, ha⟩

/-! ## Attributes by name -/

section Named

variable (pool : ConstantPool) (name : String) (attributes : List Attribute)

/-- The names of the attributes resolve, and none of them is the given one. -/
def NoneNamed : Prop :=
  ∀ a ∈ attributes, ∃ text, pool.utf8 a.nameIndex = .ok text ∧ text ≠ name

/-- The attribute is the first of the given name, and the names before it resolve. -/
def FirstNamed (a : Attribute) : Prop :=
  ∃ before after, attributes = before ++ a :: after ∧ NoneNamed pool name before ∧
    pool.utf8 a.nameIndex = .ok name

/-- A name does not resolve, and the given name does not occur before it. -/
def NameFails (e : ResolveError) : Prop :=
  ∃ before a after, attributes = before ++ a :: after ∧ NoneNamed pool name before ∧
    pool.utf8 a.nameIndex = .error e

end Named

namespace Attribute

variable {pool : ConstantPool} {name : String} {attributes : List Attribute}

/-- The search goes past attributes of other names. -/
theorem find?_append (h : NoneNamed pool name attributes) (rest : List Attribute) :
    find? pool name (attributes ++ rest) = find? pool name rest := by
  induction attributes with
  | nil => rfl
  | cons a before ih =>
    obtain ⟨⟨text, htext, hne⟩, hbefore⟩ := List.forall_mem_cons.1 h
    rw [List.cons_append, find?, htext]
    refine (if_neg hne).trans ?_
    exact ih hbefore

theorem find?_of_noneNamed (h : NoneNamed pool name attributes) :
    find? pool name attributes = .ok none := by
  have := find?_append h []
  rwa [List.append_nil] at this

theorem find?_of_firstNamed {a : Attribute} (h : FirstNamed pool name attributes a) :
    find? pool name attributes = .ok (some a) := by
  obtain ⟨before, after, rfl, hbefore, ha⟩ := h
  rw [find?_append hbefore, find?, ha]
  exact if_pos rfl

theorem find?_of_nameFails {e : ResolveError} (h : NameFails pool name attributes e) :
    find? pool name attributes = .error e := by
  obtain ⟨before, a, after, rfl, hbefore, ha⟩ := h
  rw [find?_append hbefore, find?, ha]
  rfl

theorem named_cases (pool : ConstantPool) (name : String) (attributes : List Attribute) :
    NoneNamed pool name attributes ∨ (∃ a, FirstNamed pool name attributes a) ∨
      ∃ e, NameFails pool name attributes e := by
  rcases forall_or_exists_first _ attributes with h | ⟨before, a, after, rfl, hbefore, ha⟩
  · exact .inl h
  · cases hname : pool.utf8 a.nameIndex with
    | error e => exact .inr (.inr ⟨e, before, a, after, rfl, hbefore, hname⟩)
    | ok text =>
      have htext : text = name := by
        by_cases hne : text = name
        · exact hne
        · exact absurd ⟨text, hname, hne⟩ ha
      exact .inr (.inl ⟨a, before, after, rfl, hbefore, htext ▸ hname⟩)

end Attribute

/-! ## Loading a constructor -/

/-- The constructor has a descriptor, and either no code or code that is read and decoded. -/
inductive Loads (pool : ConstantPool) (m : Method) : Option (List Instruction) → Prop where
  | noCode {descriptor : String} (hdescriptor : m.descriptor pool = .ok descriptor)
      (hcode : NoneNamed pool "Code" m.attributes) : Loads pool m none
  | code {descriptor : String} {a : Attribute} {code : Code} {s : ByteStream}
      {is : List Instruction} (hdescriptor : m.descriptor pool = .ok descriptor)
      (hcode : FirstNamed pool "Code" m.attributes a)
      (hread : Code.read (.ofBytes a.info) = .ok code s)
      (hdecode : Instruction.decode pool code.bytes = .ok is) : Loads pool m (some is)

/-- The first step of loading the constructor that fails gives the error. -/
inductive FailsToLoad (pool : ConstantPool) (m : Method) : FormatError → Prop where
  | descriptor {e : ResolveError} (hdescriptor : m.descriptor pool = .error e) :
      FailsToLoad pool m (.resolve e)
  | attributeName {descriptor : String} {e : ResolveError}
      (hdescriptor : m.descriptor pool = .ok descriptor)
      (hcode : NameFails pool "Code" m.attributes e) : FailsToLoad pool m (.resolve e)
  | code {descriptor : String} {a : Attribute} {s : ByteStream} {e : ReadError}
      (hdescriptor : m.descriptor pool = .ok descriptor)
      (hcode : FirstNamed pool "Code" m.attributes a)
      (hread : Code.read (.ofBytes a.info) = .error e s) : FailsToLoad pool m (.io (.read e))
  | instruction {descriptor : String} {a : Attribute} {code : Code} {s : ByteStream}
      {e : CodeError} (hdescriptor : m.descriptor pool = .ok descriptor)
      (hcode : FirstNamed pool "Code" m.attributes a)
      (hread : Code.read (.ofBytes a.info) = .ok code s)
      (hdecode : Instruction.decode pool code.bytes = .error e) : FailsToLoad pool m (.code e)

section Load

variable {pool : ConstantPool} {m : Method}

theorem code?_of_read {a : Attribute} {code : Code} {s : ByteStream}
    (h : FirstNamed pool "Code" m.attributes a) (hread : Code.read (.ofBytes a.info) = .ok code s) :
    Method.code? m pool = .ok (some code) := by
  rw [Method.code?, Attribute.find?_of_firstNamed h]
  simp only [hread]

/-- Loading a constructor that has code ends with decoding it. -/
theorem load_of_code? {descriptor : String} {code : Code}
    (hdescriptor : m.descriptor pool = .ok descriptor)
    (hcode : Method.code? m pool = .ok (some code)) :
    Constructor.load pool m = do
      let body ← (Instruction.decode pool code.bytes).mapError FormatError.code
      return ⟨descriptor, some body⟩ := by
  rw [Constructor.load, hdescriptor, hcode]
  rfl

theorem load_of_loads {body : Option (List Instruction)} (h : Loads pool m body) :
    ∃ descriptor, Constructor.load pool m = .ok ⟨descriptor, body⟩ := by
  cases h with
  | @noCode descriptor hdescriptor hcode =>
    refine ⟨descriptor, ?_⟩
    rw [Constructor.load, hdescriptor, Method.code?, Attribute.find?_of_noneNamed hcode]
    rfl
  | @code descriptor a code s is hdescriptor hcode hread hdecode =>
    refine ⟨descriptor, ?_⟩
    rw [load_of_code? hdescriptor (code?_of_read hcode hread), hdecode]
    rfl

theorem load_of_failsToLoad {e : FormatError} (h : FailsToLoad pool m e) :
    Constructor.load pool m = .error e := by
  cases h with
  | descriptor hdescriptor =>
    rw [Constructor.load, hdescriptor]
    rfl
  | attributeName hdescriptor hcode =>
    rw [Constructor.load, hdescriptor, Method.code?, Attribute.find?_of_nameFails hcode]
    rfl
  | code hdescriptor hcode hread =>
    rw [Constructor.load, hdescriptor, Method.code?, Attribute.find?_of_firstNamed hcode]
    simp only [hread]
    rfl
  | instruction hdescriptor hcode hread hdecode =>
    rw [load_of_code? hdescriptor (code?_of_read hcode hread), hdecode]
    rfl

theorem loads_or_failsToLoad (pool : ConstantPool) (m : Method) :
    (∃ body, Loads pool m body) ∨ ∃ e, FailsToLoad pool m e := by
  cases hdescriptor : m.descriptor pool with
  | error e => exact .inr ⟨_, .descriptor hdescriptor⟩
  | ok descriptor =>
    rcases Attribute.named_cases pool "Code" m.attributes with hcode | ⟨a, hcode⟩ | ⟨e, hcode⟩
    · exact .inl ⟨none, .noCode hdescriptor hcode⟩
    · cases hread : Code.read (.ofBytes a.info) with
      | error e s => exact .inr ⟨_, .code hdescriptor hcode hread⟩
      | ok code s =>
        cases hdecode : Instruction.decode pool code.bytes with
        | error e => exact .inr ⟨_, .instruction hdescriptor hcode hread hdecode⟩
        | ok is => exact .inl ⟨some is, .code hdescriptor hcode hread hdecode⟩
    · exact .inr ⟨_, .attributeName hdescriptor hcode⟩

end Load

/-! ## Constructors of a class -/

namespace ClassFile

/-- The names of the methods resolve. -/
def AllNamed (pool : ConstantPool) (methods : List Method) : Prop :=
  ∀ m ∈ methods, ∃ text, m.name pool = .ok text

/-- The methods that are called `<init>`. -/
def initMethods (pool : ConstantPool) (methods : List Method) : List Method :=
  methods.filter fun m => (m.name pool).toOption = some "<init>"

section Constructors

variable {pool : ConstantPool} {before : List Method}

/-- Methods whose names resolve are sorted out one by one. -/
theorem constructorsAmong_append (h : AllNamed pool before) (rest : List Method) :
    constructorsAmong pool (before ++ rest) =
      (constructorsAmong pool rest).map (initMethods pool before ++ ·) := by
  induction before with
  | nil =>
    cases hrest : constructorsAmong pool rest <;> simp [hrest, initMethods, Except.map]
  | cons m before ih =>
    obtain ⟨⟨text, htext⟩, hbefore⟩ := List.forall_mem_cons.1 h
    rw [List.cons_append, constructorsAmong, Method.isConstructor, htext, ih hbefore]
    cases constructorsAmong pool rest with
    | error e => rfl
    | ok constructors =>
      change Except.ok (if (text == "<init>") = true then m :: _ else _) = Except.ok _
      by_cases hinit : text = "<init>" <;>
        simp [initMethods, htext, Except.toOption, hinit]

theorem constructorsAmong_of_allNamed (h : AllNamed pool before) :
    constructorsAmong pool before = .ok (initMethods pool before) := by
  have := constructorsAmong_append h []
  rw [List.append_nil, constructorsAmong, Except.map, List.append_nil] at this
  exact this

theorem constructorsAmong_of_error (h : AllNamed pool before) {m : Method} (after : List Method)
    {e : ResolveError} (hm : m.name pool = .error e) :
    constructorsAmong pool (before ++ m :: after) = .error e := by
  rw [constructorsAmong_append h, constructorsAmong, Method.isConstructor, hm]
  rfl

end Constructors

end ClassFile

/-! ## One constructor after the other -/

/-- Constructors that all load, with the bodies of those that have code. -/
inductive LoadsAll (pool : ConstantPool) : List Method → List (List Instruction) → Prop where
  | nil : LoadsAll pool [] []
  | noCode {m : Method} {ms : List Method} {bodies : List (List Instruction)}
      (hm : Loads pool m none) (hms : LoadsAll pool ms bodies) : LoadsAll pool (m :: ms) bodies
  | code {m : Method} {ms : List Method} {is : List Instruction}
      {bodies : List (List Instruction)} (hm : Loads pool m (some is))
      (hms : LoadsAll pool ms bodies) : LoadsAll pool (m :: ms) (is :: bodies)

section Run

variable (settings : Settings) (pool : ConstantPool) (owner : BinaryName)

/-- The findings in some bodies, in their order. -/
def bodyFindings (bodies : List (List Instruction)) : List Finding :=
  bodies.flatMap (findings owner settings.includeDynamic)

/-- The step of the loop over the constructors. -/
def checkStep (n : Nat) (m : Method) : Checker Nat := do
  return n + (← Constructor.check settings pool owner m)

variable {pool}

/-- A constructor that loads adds its findings and their number. -/
theorem checkStep_of_loads {m : Method} {body : Option (List Instruction)}
    (h : Loads pool m body) (n : Nat) (report : Report) :
    ∃ events, checkStep settings pool owner n m report =
      .ok (n + (bodyFindings settings owner body.toList).length)
        ⟨report.findings ++ bodyFindings settings owner body.toList, events⟩ := by
  obtain ⟨descriptor, hload⟩ := load_of_loads h
  unfold checkStep Constructor.check
  rw [hload]
  cases body with
  | none => exact ⟨_, rfl⟩
  | some code =>
    rw [Option.toList_some, bodyFindings, List.flatMap_singleton]
    exact ⟨_, rfl⟩

/-- A constructor that does not load ends the loop and adds nothing. -/
theorem foldlM_cons_of_failsToLoad {m : Method} {e : FormatError} (h : FailsToLoad pool m e)
    (rest : List Method) (n : Nat) (report : Report) :
    (m :: rest).foldlM (checkStep settings pool owner) n report = .error e report := by
  have hstep : checkStep settings pool owner n m report = .error e report := by
    unfold checkStep Constructor.check
    rw [load_of_failsToLoad h]
    rfl
  rw [List.foldlM_cons]
  simp only [bind, EStateM.bind, hstep]

/-- Behind a constructor that loads, the loop goes on with what it has added. -/
theorem foldlM_cons_of_loads {m : Method} {body : Option (List Instruction)}
    (h : Loads pool m body) (rest : List Method) (n : Nat) (report : Report) :
    ∃ events, (m :: rest).foldlM (checkStep settings pool owner) n report =
      rest.foldlM (checkStep settings pool owner)
        (n + (bodyFindings settings owner body.toList).length)
        ⟨report.findings ++ bodyFindings settings owner body.toList, events⟩ := by
  obtain ⟨events, hstep⟩ := checkStep_of_loads settings owner h n report
  refine ⟨events, ?_⟩
  rw [List.foldlM_cons]
  simp only [bind, EStateM.bind, hstep]

/-- Behind constructors that all load, the loop goes on with what they have added. -/
theorem foldlM_append_of_loadsAll {before : List Method} {bodies : List (List Instruction)}
    (h : LoadsAll pool before bodies) (rest : List Method) (n : Nat) (report : Report) :
    ∃ events, (before ++ rest).foldlM (checkStep settings pool owner) n report =
      rest.foldlM (checkStep settings pool owner)
        (n + (bodyFindings settings owner bodies).length)
        ⟨report.findings ++ bodyFindings settings owner bodies, events⟩ := by
  -- the count and the report are general: later constructors start from what earlier ones left
  induction h generalizing n report with
  | nil => exact ⟨report.events, by simp [bodyFindings]⟩
  | noCode hm hms ih =>
    obtain ⟨events, hfirst⟩ := foldlM_cons_of_loads settings owner hm (_ ++ rest) n report
    obtain ⟨events', hrest⟩ := ih n ⟨report.findings, events⟩
    refine ⟨events', ?_⟩
    rw [List.cons_append, hfirst, ← hrest]
    simp [bodyFindings]
  | code hm hms ih =>
    obtain ⟨events, hfirst⟩ := foldlM_cons_of_loads settings owner hm (_ ++ rest) n report
    obtain ⟨events', hrest⟩ := ih _ ⟨_, events⟩
    refine ⟨events', ?_⟩
    rw [List.cons_append, hfirst, hrest]
    simp [bodyFindings, Nat.add_assoc]

theorem exists_loadsAll {ms : List Method} (h : ∀ m ∈ ms, ∃ body, Loads pool m body) :
    ∃ bodies, LoadsAll pool ms bodies := by
  induction ms with
  | nil => exact ⟨[], .nil⟩
  | cons m ms ih =>
    obtain ⟨⟨body, hm⟩, hms⟩ := List.forall_mem_cons.1 h
    obtain ⟨bodies, hbodies⟩ := ih hms
    cases body with
    | none => exact ⟨bodies, .noCode hm hbodies⟩
    | some is => exact ⟨is :: bodies, .code hm hbodies⟩

end Run

/-! ## Whole classes -/

/-- The result of a check and the findings in the report afterwards. -/
def Checker.outcome (x : Checker Nat) (report : Report) : Except FormatError Nat × List Finding :=
  match x report with
  | .ok n r => (.ok n, r.findings)
  | .error e r => (.error e, r.findings)

theorem Checker.outcome_of_eq_ok {x : Checker Nat} {report r : Report} {n : Nat}
    (h : x report = .ok n r) : x.outcome report = (.ok n, r.findings) := by
  simp only [Checker.outcome, h]

theorem Checker.outcome_of_eq_error {x : Checker Nat} {report r : Report} {e : FormatError}
    (h : x report = .error e r) : x.outcome report = (.error e, r.findings) := by
  simp only [Checker.outcome, h]

/-- How the check of a class ends if there are the findings `found` in the report before. -/
inductive CheckOutcome (settings : Settings) (c : ClassFile) (found : List Finding) :
    Except FormatError Nat → List Finding → Prop where
  /-- The name of the class does not resolve. -/
  | className {e : ResolveError} (hname : c.name = .error e) :
      CheckOutcome settings c found (.error (.resolve e)) found
  | skipped {name : BinaryName} (hname : c.name = .ok name) (hskip : settings.skipSynthetic = true)
      (hsynthetic : c.access.isSynthetic = true) : CheckOutcome settings c found (.ok 0) found
  /-- The name of a method does not resolve, and it is the first such method. -/
  | methodName {name : BinaryName} {before after : List Method} {m : Method} {e : ResolveError}
      (hname : c.name = .ok name)
      (hskip : ¬ (settings.skipSynthetic = true ∧ c.access.isSynthetic = true))
      (hmethods : c.methods = before ++ m :: after) (hbefore : ClassFile.AllNamed c.pool before)
      (hm : m.name c.pool = .error e) : CheckOutcome settings c found (.error (.resolve e)) found
  /-- All constructors load. -/
  | checked {name : BinaryName} {bodies : List (List Instruction)} (hname : c.name = .ok name)
      (hskip : ¬ (settings.skipSynthetic = true ∧ c.access.isSynthetic = true))
      (hmethods : ClassFile.AllNamed c.pool c.methods)
      (hload : LoadsAll c.pool (ClassFile.initMethods c.pool c.methods) bodies) :
      CheckOutcome settings c found (.ok (bodyFindings settings name bodies).length)
        (found ++ bodyFindings settings name bodies)
  /-- A constructor does not load, and it is the first such constructor. -/
  | failed {name : BinaryName} {before after : List Method} {m : Method}
      {bodies : List (List Instruction)} {e : FormatError} (hname : c.name = .ok name)
      (hskip : ¬ (settings.skipSynthetic = true ∧ c.access.isSynthetic = true))
      (hmethods : ClassFile.AllNamed c.pool c.methods)
      (hconstructors : ClassFile.initMethods c.pool c.methods = before ++ m :: after)
      (hbefore : LoadsAll c.pool before bodies) (hm : FailsToLoad c.pool m e) :
      CheckOutcome settings c found (.error e) (found ++ bodyFindings settings name bodies)

namespace ClassFile

variable {settings : Settings} {c : ClassFile}

/-- A check of a class that is not skipped goes through its constructors. -/
theorem check_of_name {name : BinaryName} (hname : c.name = .ok name)
    (hskip : ¬ (settings.skipSynthetic = true ∧ c.access.isSynthetic = true)) :
    c.check settings = (do
      let constructors ← (constructorsAmong c.pool c.methods).mapError FormatError.resolve
      constructors.foldlM (checkStep settings c.pool name) 0) := by
  have hcond : ¬ (settings.skipSynthetic && c.access.isSynthetic) = true := by
    rwa [Bool.and_eq_true]
  unfold ClassFile.check
  rw [hname]
  exact if_neg hcond

theorem outcome_of_checkOutcome {report : Report} {result : Except FormatError Nat}
    {found : List Finding} (h : CheckOutcome settings c report.findings result found) :
    (c.check settings).outcome report = (result, found) := by
  cases h with
  | className hname =>
    rw [ClassFile.check, hname]
    rfl
  | skipped hname hskip hsynthetic =>
    rw [ClassFile.check, hname, hskip, hsynthetic]
    rfl
  | methodName hname hskip hmethods hbefore hm =>
    rw [check_of_name hname hskip, hmethods, constructorsAmong_of_error hbefore _ hm]
    rfl
  | checked hname hskip hmethods hload =>
    obtain ⟨events, hrun⟩ := foldlM_append_of_loadsAll settings _ hload [] 0 report
    rw [List.append_nil, Nat.zero_add] at hrun
    rw [check_of_name hname hskip, constructorsAmong_of_allNamed hmethods]
    exact Checker.outcome_of_eq_ok hrun
  | @failed name before after m bodies e hname hskip hmethods hconstructors hbefore hm =>
    obtain ⟨events, hrun⟩ := foldlM_append_of_loadsAll settings name hbefore (m :: after) 0 report
    have hstop := foldlM_cons_of_failsToLoad settings name hm after
    rw [hstop] at hrun
    rw [check_of_name hname hskip, constructorsAmong_of_allNamed hmethods, hconstructors]
    exact Checker.outcome_of_eq_error hrun

/-- Every check ends in one of the ways. -/
theorem exists_checkOutcome (settings : Settings) (c : ClassFile) (found : List Finding) :
    ∃ result found', CheckOutcome settings c found result found' := by
  cases hname : c.name with
  | error e => exact ⟨_, _, .className hname⟩
  | ok name =>
    by_cases hskip : settings.skipSynthetic = true ∧ c.access.isSynthetic = true
    · exact ⟨_, _, .skipped hname hskip.1 hskip.2⟩
    · rcases forall_or_exists_first (fun m : Method => ∃ text, m.name c.pool = .ok text) c.methods
        with hmethods | ⟨before, m, after, hmethods, hbefore, hm⟩
      · rcases forall_or_exists_first (fun m => ∃ body, Loads c.pool m body)
          (initMethods c.pool c.methods) with hload | ⟨before, m, after, heq, hbefore, hm⟩
        · obtain ⟨bodies, hbodies⟩ := exists_loadsAll hload
          exact ⟨_, _, .checked hname hskip hmethods hbodies⟩
        · obtain ⟨bodies, hbodies⟩ := exists_loadsAll hbefore
          obtain ⟨e, he⟩ := (loads_or_failsToLoad c.pool m).resolve_left hm
          exact ⟨_, _, .failed hname hskip hmethods heq hbodies he⟩
      · cases hm' : m.name c.pool with
        | ok text => exact absurd ⟨text, hm'⟩ hm
        | error e => exact ⟨_, _, .methodName hname hskip hmethods hbefore hm'⟩

/-- The check of a class ends as the list of ways says: with what result, and with which findings
behind those that were in the report. -/
theorem check_outcome_iff (settings : Settings) (c : ClassFile) (report : Report)
    (result : Except FormatError Nat) (found : List Finding) :
    (c.check settings).outcome report = (result, found) ↔
      CheckOutcome settings c report.findings result found := by
  -- some way to end applies, and the one that applies is the one that the check takes
  refine ⟨fun h => ?_, outcome_of_checkOutcome⟩
  obtain ⟨result', found', hout⟩ := exists_checkOutcome settings c report.findings
  have := (outcome_of_checkOutcome hout).symm.trans h
  rw [Prod.mk.injEq] at this
  obtain ⟨rfl, rfl⟩ := this
  exact hout

end ClassFile

/-! ## Class files -/

section Bytes

variable {settings : Settings} {bytes : List UInt8}

theorem toExcept_checkBytes_of_malformed {e : FormatError}
    (hclass : ClassFile.ofBytes bytes = .error e) :
    (checkBytes settings bytes).toExcept = .error e := by
  have hrun : check settings bytes {} = .error e {} := by
    unfold check
    rw [hclass]
    rfl
  rw [checkBytes, hrun]
  rfl

/-- If the check of the class goes through, its findings are those of the file. -/
theorem toExcept_checkBytes_of_outcome {c : ClassFile} {result : Except FormatError Nat}
    {found : List Finding} (hclass : ClassFile.ofBytes bytes = .ok c)
    (hcheck : CheckOutcome settings c [] result found) :
    (checkBytes settings bytes).toExcept = result.map fun _ => found := by
  have hrun : check settings bytes {} = c.check settings {} := by
    unfold check
    rw [hclass]
    rfl
  have hout : (c.check settings).outcome {} = (result, found) :=
    ClassFile.outcome_of_checkOutcome hcheck
  rw [checkBytes, hrun]
  unfold Checker.outcome at hout
  cases hresult : c.check settings {} with
  | ok n r =>
    rw [hresult] at hout
    cases hout
    rfl
  | error e r =>
    rw [hresult] at hout
    cases hout
    rfl

end Bytes

end CtorLeak
