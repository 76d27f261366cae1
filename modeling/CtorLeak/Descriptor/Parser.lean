import CtorLeak.Descriptor.Basic

/-!
# Reading descriptors

Each reader takes what it needs from the front of a text and leaves the rest; one that fails leaves
what it has not yet consumed.  `parseAll` asks that nothing be left.
-/

namespace CtorLeak

/-- Why a text is not a descriptor. -/
inductive DescriptorError where
  | missingBaseType
  | invalidBaseType (found : Char)
  | expectedClass
  /-- A class without its `;`; `found` is what follows the `L`. -/
  | unterminatedClass (found : String)
  | invalidName (e : NameError)
  | invalidReference (found : Char)
  | missingFieldType
  | expectedMethod
  | leftover (next : Char)
deriving DecidableEq, Repr

/-- Whether more text could have helped. -/
inductive DescriptorError.Kind where
  | endOfText
  | invalid
deriving DecidableEq, Repr

namespace DescriptorError

def kind : DescriptorError → Kind
  | missingBaseType | unterminatedClass _ | missingFieldType => .endOfText
  | _ => .invalid

def message : DescriptorError → String
  | missingBaseType => "Missing base type character"
  | invalidBaseType c => s!"Invalid base type character '{c}'"
  | expectedClass => "Expected object type to start with `L`"
  | unterminatedClass found => s!"Missing terminator for 'L{found}'"
  | invalidName e => e.message
  | invalidReference c => s!"Invalid reference type character '{c}'"
  | missingFieldType => "Missing field type"
  | expectedMethod => "Expected method descriptor to start with `(`"
  | leftover c => s!"Unexpected leftover input '{c}'"

end DescriptorError

/-- A reader of descriptors: its answer, and the text that it leaves. -/
abbrev DescriptorReader (α : Type) := EStateM DescriptorError (List Char) α

def BaseType.parse : DescriptorReader BaseType
  | [] => .error .missingBaseType []
  | c :: cs =>
    match ofLetter? c with
    | some b => .ok b cs
    | none => .error (.invalidBaseType c) cs

/-- Reads the descriptor of a class.  Its name ends at the first `;`. -/
def BinaryName.parse : DescriptorReader BinaryName
  | 'L' :: cs =>
    let found := String.ofList (cs.takeWhile (· != ';'))
    match cs.dropWhile (· != ';') with
    | [] => .error (.unterminatedClass found) []
    | _ :: rest =>
      match ofString found with
      | .ok name => .ok name rest
      | .error e => .error (.invalidName e) rest
  | cs => .error .expectedClass cs.tail

def RefType.parse : DescriptorReader RefType
  | [] => .error .missingFieldType []
  | '[' :: cs =>
    let extra := (cs.takeWhile (· == '[')).length
    match cs.dropWhile (· == '[') with
    | 'L' :: rest => (objectArray extra <$> BinaryName.parse) ('L' :: rest)
    | rest => (baseArray extra <$> BaseType.parse) rest
  | 'L' :: cs => (object <$> BinaryName.parse) ('L' :: cs)
  | c :: cs => .error (.invalidReference c) (c :: cs)

def FieldType.parse : DescriptorReader FieldType
  | [] => .error .missingFieldType []
  | c :: cs =>
    match BaseType.ofLetter? c with
    | some b => .ok (.base b) cs
    | none => (ref <$> RefType.parse) (c :: cs)

/-! ## Every type that is read takes a character -/

theorem BaseType.length_lt_of_parse {cs rest : List Char} {b : BaseType}
    (h : BaseType.parse cs = .ok b rest) : rest.length < cs.length := by
  unfold parse at h
  split at h
  · cases h
  · split at h
    · cases h
      simp
    · cases h

theorem BinaryName.length_lt_of_parse {cs rest : List Char} {name : BinaryName}
    (h : BinaryName.parse cs = .ok name rest) : rest.length < cs.length := by
  unfold parse at h
  split at h
  · rename_i cs
    simp only at h
    split at h
    · cases h
    · rename_i c tail heq
      have hlen : (cs.dropWhile (· != ';')).length ≤ cs.length :=
        (List.dropWhile_sublist _).length_le
      rw [heq] at hlen
      split at h
      · cases h
        simp at hlen ⊢
        omega
      · cases h
  · cases h

/-- A reader that is mapped leaves what it left before. -/
theorem DescriptorReader.map_eq_ok {α β : Type} {f : α → β} {p : DescriptorReader α}
    {cs rest : List Char} {b : β} (h : (f <$> p) cs = .ok b rest) :
    ∃ a, p cs = .ok a rest ∧ f a = b := by
  simp only [Functor.map, EStateM.map] at h
  split at h
  · rename_i a s heq
    cases h
    exact ⟨a, heq, rfl⟩
  · cases h

theorem RefType.length_lt_of_parse {cs rest : List Char} {t : RefType}
    (h : RefType.parse cs = .ok t rest) : rest.length < cs.length := by
  unfold parse at h
  split at h
  · cases h
  · rename_i cs
    have hlen : (cs.dropWhile (· == '[')).length ≤ cs.length :=
      (List.dropWhile_sublist _).length_le
    simp only at h
    split at h
    · rename_i tail heq
      obtain ⟨name, hname, -⟩ := DescriptorReader.map_eq_ok h
      have := BinaryName.length_lt_of_parse hname
      rw [heq] at hlen
      simp only [List.length_cons] at *
      omega
    · obtain ⟨b, hb, -⟩ := DescriptorReader.map_eq_ok h
      have := BaseType.length_lt_of_parse hb
      simp only [List.length_cons]
      omega
  · obtain ⟨name, hname, -⟩ := DescriptorReader.map_eq_ok h
    exact BinaryName.length_lt_of_parse hname
  · cases h

theorem FieldType.length_lt_of_parse {cs rest : List Char} {t : FieldType}
    (h : FieldType.parse cs = .ok t rest) : rest.length < cs.length := by
  unfold parse at h
  split at h
  · cases h
  · split at h
    · cases h
      simp
    · obtain ⟨r, hr, -⟩ := DescriptorReader.map_eq_ok h
      exact RefType.length_lt_of_parse hr

/-! ## Methods -/

namespace MethodDescriptor

/-- Reads parameters up to and with the closing parenthesis. -/
def parseParameters (cs : List Char) :
    EStateM.Result DescriptorError (List Char) (List FieldType) :=
  match cs with
  | ')' :: rest => .ok [] rest
  | cs =>
    match h : FieldType.parse cs with
    | .error e rest => .error e rest
    | .ok t rest =>
      have : rest.length < cs.length := FieldType.length_lt_of_parse h
      match parseParameters rest with
      | .error e rest => .error e rest
      | .ok ts rest => .ok (t :: ts) rest
termination_by cs.length

def parseResult : DescriptorReader (Option FieldType)
  | 'V' :: rest => .ok none rest
  | cs => (some <$> FieldType.parse) cs

def parse : DescriptorReader MethodDescriptor
  | '(' :: cs =>
    match parseParameters cs with
    | .error e rest => .error e rest
    | .ok parameters rest => (MethodDescriptor.mk parameters <$> parseResult) rest
  | cs => .error .expectedMethod cs.tail

end MethodDescriptor

/-! ## Whole texts -/

/-- Reads a whole text.  Anything that the reader leaves is an error. -/
def DescriptorReader.parseAll {α : Type} (p : DescriptorReader α) (text : String) :
    Except DescriptorError α :=
  match p text.toList with
  | .error e _ => .error e
  | .ok a [] => .ok a
  | .ok _ (c :: _) => .error (.leftover c)

def FieldType.ofDescriptor (text : String) : Except DescriptorError FieldType :=
  DescriptorReader.parseAll FieldType.parse text

def MethodDescriptor.ofDescriptor (text : String) : Except DescriptorError MethodDescriptor :=
  DescriptorReader.parseAll MethodDescriptor.parse text

end CtorLeak
