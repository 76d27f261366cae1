import CtorLeak.Proofs.Descriptor.Grammar
import CtorLeak.Proofs.Escape.Findings

/-!
# Simple arguments are told apart

The walk back from a call counts instructions, not values.  On arguments that are simple, each a
variable, a constant or a new object, the two counts agree: the walk finds the loads of `this`
among the arguments and nothing else (`thisSteps_arguments`).

Beside it stands the operand stack itself.  `simulate?` runs the code of the arguments and keeps for
each value on the stack where it comes from; which of the values that the call takes are `this` can
then be read off (`simulate?_arguments`).  Both answers are the same (`thisArguments_of_simple`).
-/

namespace CtorLeak

/-! ## Arguments -/

/-- An argument of a call that is made on its own. -/
inductive SimpleArgument where
  | load (type : LocalType) (slot : UInt16)
  | push (c : Literal)
  | pushByte (value : Int8)
  | pushShort (value : Int16)
  | ldc (index : UInt16)
  | ldc2 (index : UInt16)
  /-- An object of the class, made by its constructor without parameters. -/
  | newObject (name : BinaryName) (isInterface : Bool)
deriving DecidableEq, Repr

namespace SimpleArgument

def code : SimpleArgument → List Instruction
  | load type slot => [.load type slot]
  | push c => [.push c]
  | pushByte value => [.pushByte value]
  | pushShort value => [.pushShort value]
  | ldc index => [.ldc index]
  | ldc2 index => [.ldc2 index]
  | newObject name isInterface =>
    [.new name, .stack .dup, .invoke .special ⟨name, .init, "()V", isInterface⟩]

def isThis : SimpleArgument → Bool
  | load _ slot => slot = 0
  | _ => false

/-- The code of some arguments, the first argument first. -/
def codeOf (arguments : List SimpleArgument) : List Instruction := arguments.flatMap code

/-- Where `this` is loaded in the code of some arguments that begins at `start`. -/
def thisLoads (start : Nat) : List SimpleArgument → List Nat
  | [] => []
  | a :: rest => (if a.isThis then [start] else []) ++ thisLoads (start + a.code.length) rest

theorem codeOf_cons (a : SimpleArgument) (rest : List SimpleArgument) :
    codeOf (a :: rest) = a.code ++ codeOf rest :=
  List.flatMap_cons

/-- A load of `this` is an argument of its own, and all that comes before it are arguments. -/
theorem mem_thisLoads_iff (start : Nat) (arguments : List SimpleArgument) (position : Nat) :
    position ∈ thisLoads start arguments ↔ ∃ before a after, arguments = before ++ a :: after ∧
      a.isThis = true ∧ position = start + (codeOf before).length := by
  induction arguments generalizing start with
  | nil => simp [thisLoads]
  | cons b rest ih =>
    rw [thisLoads, List.mem_append, ih]
    constructor
    · rintro (h | ⟨before, a, after, rfl, ha, rfl⟩)
      · by_cases hb : b.isThis = true
        · rw [if_pos hb, List.mem_singleton] at h
          exact ⟨[], b, rest, rfl, hb, h⟩
        · rw [if_neg hb] at h
          cases h
      · refine ⟨b :: before, a, after, rfl, ha, ?_⟩
        rw [codeOf_cons, List.length_append]
        omega
    · rintro ⟨before, a, after, heq, ha, rfl⟩
      cases before with
      | nil =>
        cases heq
        left
        rw [if_pos ha]
        exact List.mem_singleton_self _
      | cons c before =>
        cases heq
        right
        refine ⟨before, a, after, rfl, ha, ?_⟩
        rw [codeOf_cons, List.length_append]
        omega

/-- The position lies in the code of a new object, if the code of the arguments begins at
`start`. -/
def InNewObject (start : Nat) (arguments : List SimpleArgument) (position : Nat) : Prop :=
  ∃ before name isInterface after, arguments = before ++ newObject name isInterface :: after ∧
    start + (codeOf before).length ≤ position ∧ position < start + (codeOf before).length + 3

theorem length_code_pos (a : SimpleArgument) : 0 < a.code.length := by
  cases a <;> exact Nat.succ_pos _

theorem not_inNewObject_of_mem_thisLoads {start position : Nat} {arguments : List SimpleArgument}
    (h : position ∈ thisLoads start arguments) : ¬ InNewObject start arguments position := by
  obtain ⟨before, a, after, heq, ha, rfl⟩ := (mem_thisLoads_iff _ _ _).1 h
  rintro ⟨before', name, isInterface, after', heq', hle, hlt⟩
  rw [heq, List.append_eq_append_iff] at heq'
  rcases heq' with ⟨between, rfl, htail⟩ | ⟨between, rfl, htail⟩
  · -- the load is not behind the new object's start, so it would be the new object
    cases between with
    | nil =>
      cases htail
      cases ha
    | cons b between =>
      cases htail
      have := length_code_pos a
      simp only [codeOf, List.flatMap_append, List.flatMap_cons, List.length_append] at hle
      omega
  · cases between with
    | nil =>
      cases htail
      cases ha
    | cons b between =>
      cases htail
      simp only [codeOf, List.flatMap_append, List.flatMap_cons, List.length_append, code,
        List.length_cons, List.length_nil] at hlt
      omega

end SimpleArgument

open SimpleArgument

/-! ## The walk -/

/-- The loads of `this` that a walk visits. -/
def thisSteps (values : Nat) (l : List (Instruction × Nat)) : List Nat :=
  ((scan values l).filter ScanStep.isThisLoad).map ScanStep.index

theorem thisSteps_zero (l : List (Instruction × Nat)) : thisSteps 0 l = [] := by
  cases l <;> rfl

theorem thisSteps_cons (values : Nat) (i : Instruction) (index : Nat)
    (before : List (Instruction × Nat)) :
    thisSteps (values + 1) ((i, index) :: before) =
      (if i.isThisLoad then [index] else []) ++
        thisSteps (if i.isShuffle then values + 1 else values) before := by
  unfold thisSteps
  rw [scan, List.filter_cons]
  show List.map ScanStep.index (if i.isThisLoad = true then _ else _) = _
  split <;> rfl

/-- A duplication or an allocation is passed and does not count. -/
theorem thisSteps_shuffle (values : Nat) (i : Instruction) (index : Nat)
    (before : List (Instruction × Nat)) (hthis : i.isThisLoad = false)
    (hshuffle : i.isShuffle = true) :
    thisSteps values ((i, index) :: before) = thisSteps values before := by
  cases values with
  | zero => rw [thisSteps_zero, thisSteps_zero]
  | succ values =>
    rw [thisSteps_cons, hthis, hshuffle]
    rfl

/-- The walk over one argument counts one value. -/
theorem thisSteps_argument (a : SimpleArgument) (start values : Nat)
    (before : List (Instruction × Nat)) :
    thisSteps (values + 1) ((a.code.zipIdx start).reverse ++ before) =
      (if a.isThis then [start] else []) ++ thisSteps values before := by
  cases a with
  | load type slot =>
    have hthis : (Instruction.load type slot).isThisLoad =
        (SimpleArgument.load type slot).isThis := by
      rw [Bool.eq_iff_iff]
      simp [Instruction.isThisLoad, Instruction.effect, Effect.isThisLoad, Effect.thisSlot, isThis]
    rw [← hthis]
    exact thisSteps_cons values _ start before
  | newObject name isInterface =>
    -- the constructor call is the value; the walk may end there, before it sees the other two
    show thisSteps (values + 1) ((.invoke _ _, start + 2) :: (.stack .dup, start + 1) ::
      (.new name, start) :: before) = _
    rw [thisSteps_cons]
    show thisSteps values _ = thisSteps values before
    rw [thisSteps_shuffle values (.stack .dup) _ _ rfl rfl,
      thisSteps_shuffle values (.new name) _ _ rfl rfl]
  | _ => exact thisSteps_cons values _ start before

/-- The walk over some arguments finds their loads of `this`, the last first, and then has as many
values left as there are no arguments for. -/
theorem thisSteps_arguments (arguments : List SimpleArgument) (start values : Nat)
    (before : List (Instruction × Nat)) :
    thisSteps (arguments.length + values) (((codeOf arguments).zipIdx start).reverse ++ before) =
      (thisLoads start arguments).reverse ++ thisSteps values before := by
  -- the walk meets the first argument last, so the others are walked over with a value to spare
  induction arguments generalizing start values before with
  | nil => simp [codeOf, thisLoads]
  | cons a rest ih =>
    have hlength : (a :: rest).length + values = rest.length + (values + 1) := by
      rw [List.length_cons]
      omega
    rw [hlength, codeOf_cons, List.zipIdx_append, List.reverse_append, List.append_assoc, ih,
      thisSteps_argument, thisLoads, List.reverse_append, List.append_assoc]
    congr 1
    split <;> rfl

/-- What stands before the arguments is never looked at. -/
theorem thisArguments_append (before after : List Instruction) (arguments : List SimpleArgument) :
    thisArguments (before ++ codeOf arguments ++ after)
        (before.length + (codeOf arguments).length) arguments.length =
      (thisLoads before.length arguments).reverse := by
  have htake : (before ++ codeOf arguments ++ after).take
      (before.length + (codeOf arguments).length) = before ++ codeOf arguments := by
    rw [← List.length_append, List.take_left]
  have hwalk := thisSteps_arguments arguments before.length 0 before.zipIdx.reverse
  rw [thisSteps_zero, List.append_nil, Nat.add_zero] at hwalk
  unfold thisArguments scanBack
  rw [htake, List.zipIdx_append, List.reverse_append, Nat.zero_add]
  exact hwalk

/-! ## The operand stack -/

/-- A value on the operand stack, by where it comes from. -/
inductive StackValue where
  /-- The value that a variable had at the load. -/
  | loaded (slot : UInt16) (load : Nat)
  | constant
  /-- The object that was allocated at a position. -/
  | object (name : BinaryName) (allocation : Nat)
deriving DecidableEq, Repr

namespace StackValue

/-- The load that pushed the value, if it is the object under construction. -/
def thisLoad? : StackValue → Option Nat
  | loaded slot position => if slot = 0 then some position else none
  | _ => none

end StackValue

/-- What the instruction at a position does to the operand stack, whose top comes first.  A
constructor without parameters takes the object that it initializes.  Other instructions than those
of simple arguments are not run. -/
def Instruction.simulate? : Instruction × Nat → List StackValue → Option (List StackValue)
  | (load _ slot, index), below => some (.loaded slot index :: below)
  | (push _, _), below | (pushByte _, _), below | (pushShort _, _), below | (ldc _, _), below
  | (ldc2 _, _), below => some (.constant :: below)
  | (new name, index), below => some (.object name index :: below)
  | (stack .dup, _), value :: below => some (value :: value :: below)
  | (invoke .special m, _), .object name _ :: below =>
    if m.owner = name ∧ m.name = .init ∧ m.descriptor = "()V" then some below else none
  | _, _ => none

/-- Runs instructions one after the other. -/
def simulate? (code : List (Instruction × Nat)) (stack : List StackValue) :
    Option (List StackValue) :=
  code.foldlM (fun stack i => Instruction.simulate? i stack) stack

/-- The value that an argument leaves on the stack if its code begins at `start`. -/
def SimpleArgument.value (start : Nat) : SimpleArgument → StackValue
  | load _ slot => .loaded slot start
  | newObject name _ => .object name start
  | _ => .constant

/-- The values of some arguments, the last on top. -/
def SimpleArgument.values (start : Nat) : List SimpleArgument → List StackValue
  | [] => []
  | a :: rest => values (start + a.code.length) rest ++ [a.value start]

theorem SimpleArgument.length_values (start : Nat) (arguments : List SimpleArgument) :
    (values start arguments).length = arguments.length := by
  induction arguments generalizing start with
  | nil => rfl
  | cons a rest ih => rw [values, List.length_append, ih, List.length_singleton, List.length_cons]

theorem simulate?_append (code code' : List (Instruction × Nat)) (stack : List StackValue) :
    simulate? (code ++ code') stack = (simulate? code stack).bind (simulate? code') :=
  List.foldlM_append

/-- One argument leaves one value and touches nothing below it. -/
theorem simulate?_argument (a : SimpleArgument) (start : Nat) (stack : List StackValue) :
    simulate? (a.code.zipIdx start) stack = some (a.value start :: stack) := by
  cases a with
  | newObject name isInterface => simp [simulate?, code, Instruction.simulate?, value]
  | _ => rfl

theorem simulate?_arguments (arguments : List SimpleArgument) (start : Nat)
    (stack : List StackValue) :
    simulate? ((codeOf arguments).zipIdx start) stack =
      some (values start arguments ++ stack) := by
  induction arguments generalizing start stack with
  | nil => rfl
  | cons a rest ih =>
    rw [codeOf_cons, List.zipIdx_append, simulate?_append, simulate?_argument, Option.bind_some, ih,
      values, List.append_assoc]
    rfl

theorem thisLoad?_value (a : SimpleArgument) (start : Nat) :
    (a.value start).thisLoad? = if a.isThis then some start else none := by
  cases a <;> simp [value, StackValue.thisLoad?, isThis]

/-- The values that are `this` are those whose argument loads it. -/
theorem filterMap_values (arguments : List SimpleArgument) (start : Nat) :
    (values start arguments).filterMap StackValue.thisLoad? =
      (thisLoads start arguments).reverse := by
  induction arguments generalizing start with
  | nil => rfl
  | cons a rest ih =>
    rw [values, List.filterMap_append, ih, thisLoads, List.reverse_append, List.filterMap_cons,
      thisLoad?_value]
    split <;> simp_all

/-! ## Calls -/

theorem argumentCount_of_render {descriptor : String} {d : MethodDescriptor}
    (hd : d.HasDescriptor) (hrender : descriptor.toList = d.render) :
    argumentCount descriptor = d.parameters.length := by
  have hread : MethodDescriptor.ofDescriptor descriptor = .ok d :=
    (MethodDescriptor.exact_parse.recognizes.parseAll_iff descriptor d).2 ⟨hd, hrender⟩
  exact argumentCount_of_ok hread

/-- A call that is looked at is one of the sites, with the arguments of its descriptor. -/
theorem exists_callSite {includeDynamic : Bool} {code : List Instruction} {index : Nat}
    {call : Instruction} {descriptor : String} (hindex : code[index]? = some call)
    (hcall : IsCheckedCall includeDynamic call descriptor) :
    ∃ site ∈ callSites includeDynamic code,
      site.index = index ∧ site.arguments = argumentCount descriptor := by
  obtain ⟨callee, hcallee, hrelevant, rfl⟩ := (isCheckedCall_iff _ _ _).1 hcall
  exact ⟨⟨index, callee⟩, (mem_callSites_iff _ _ _).2 ⟨call, hindex, hcallee, hrelevant⟩, rfl, rfl⟩

/-- A call of a method with as many parameters as there are simple arguments before it.  What is
found is exactly the arguments that load `this`, the last first: nothing before the arguments and
nothing in the code of a new object.  These are the values that are `this` among those that the call
takes from the operand stack, whatever was on it before the arguments. -/
theorem thisArguments_of_simple (includeDynamic : Bool) (code before after : List Instruction)
    (arguments : List SimpleArgument) (call : Instruction) (descriptor : String)
    (d : MethodDescriptor) (hcode : code = before ++ codeOf arguments ++ call :: after)
    (hcall : IsCheckedCall includeDynamic call descriptor) (hd : d.HasDescriptor)
    (hrender : descriptor.toList = d.render) (hcount : d.parameters.length = arguments.length) :
    ∃ site ∈ callSites includeDynamic code,
      site.index = before.length + (codeOf arguments).length ∧
      thisArguments code site.index site.arguments = (thisLoads before.length arguments).reverse ∧
      (∀ load ∈ thisArguments code site.index site.arguments,
        before.length ≤ load ∧ ¬ InNewObject before.length arguments load) ∧
      ∀ below, ∃ stack,
        simulate? ((codeOf arguments).zipIdx before.length) below = some stack ∧
        stack.drop arguments.length = below ∧
        thisArguments code site.index site.arguments =
          (stack.take arguments.length).filterMap StackValue.thisLoad? := by
  have hindex : code[before.length + (codeOf arguments).length]? = some call := by
    rw [hcode, ← List.length_append]
    simp
  obtain ⟨site, hsite, hposition, harguments⟩ := exists_callSite hindex hcall
  rw [argumentCount_of_render hd hrender, hcount] at harguments
  have hfound : thisArguments code site.index site.arguments =
      (thisLoads before.length arguments).reverse := by
    rw [hposition, harguments, hcode, thisArguments_append]
  refine ⟨site, hsite, hposition, hfound, ?_, ?_⟩
  · intro load hload
    rw [hfound, List.mem_reverse] at hload
    refine ⟨?_, not_inNewObject_of_mem_thisLoads hload⟩
    obtain ⟨_, _, _, _, _, rfl⟩ := (mem_thisLoads_iff _ _ _).1 hload
    exact Nat.le_add_right _ _
  · intro below
    have hlength := length_values before.length arguments
    refine ⟨values before.length arguments ++ below, simulate?_arguments _ _ _, ?_, ?_⟩
    · rw [← hlength, List.drop_left]
    · rw [hfound, ← hlength, List.take_left, filterMap_values]

/-- Code for `this.register(this, new Other(), 7, this)`: what is passed, and the call. -/
def registerArguments : List SimpleArgument :=
  [.load .ref 0, .newObject ⟨"a/Other", by decide⟩ false, .pushByte 7, .load .ref 0]

def registerDescriptor : MethodDescriptor :=
  ⟨[.object .object, .object ⟨"a/Other", by decide⟩, .int, .object .object], none⟩

def registerMethod : MethodRef :=
  ⟨⟨"a/Point", by decide⟩, ⟨"register", by decide⟩,
    "(Ljava/lang/Object;La/Other;ILjava/lang/Object;)V", false⟩

def registerCode : List Instruction :=
  [.load .ref 0] ++ codeOf registerArguments ++ .invoke .virtual registerMethod :: [.returnVoid]

theorem thisArguments_of_simple_register :
    IsCheckedCall true (.invoke .virtual registerMethod) registerMethod.descriptor ∧
      registerDescriptor.HasDescriptor ∧
      registerMethod.descriptor.toList = registerDescriptor.render ∧
      registerDescriptor.parameters.length = registerArguments.length ∧
      ∃ site ∈ callSites true registerCode, site.index = 7 ∧
        thisArguments registerCode site.index site.arguments = [6, 1] := by
  have hcall : IsCheckedCall true (.invoke .virtual registerMethod) registerMethod.descriptor :=
    .method .virtual registerMethod (by decide)
  have hd : registerDescriptor.HasDescriptor := by
    simp [registerDescriptor, MethodDescriptor.HasDescriptor, FieldType.HasDescriptor,
      RefType.HasDescriptor, BinaryName.HasDescriptor, FieldType.object, FieldType.int,
      BinaryName.object]
  have hrender : registerMethod.descriptor.toList = registerDescriptor.render := by decide
  obtain ⟨site, hsite, hindex, hfound, -⟩ :=
    thisArguments_of_simple true registerCode [.load .ref 0] [.returnVoid] registerArguments _ _
      registerDescriptor rfl hcall hd hrender rfl
  exact ⟨hcall, hd, hrender, rfl, site, hsite, hindex, hfound⟩

end CtorLeak
