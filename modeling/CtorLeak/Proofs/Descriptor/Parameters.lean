import CtorLeak.Escape.Site
import CtorLeak.Proofs.Descriptor.Grammar

/-!
# Counting parameters

The parameters of a method are written one after the other, with nothing between them, and counted
in two ways: as arguments, where each is one, and by the slots that they take, where a `J` or a `D`
is two.  Since the reader finds the places where one descriptor ends and the next begins, both
counts can be had from the texts of the parameters:

    arguments = number of texts
    slots     = number of texts + number of texts that are `J` or `D`

so that they add up where lists of parameters are joined, and do not depend on the result.
-/

namespace CtorLeak

/-! ## Texts -/

/-- The text is the descriptor of a field. -/
def IsFieldDescriptor (text : String) : Prop := ∃ t, FieldType.ofDescriptor text = .ok t

/-- The text is `V`, or the descriptor of a field. -/
def IsResultDescriptor (text : String) : Prop := text = "V" ∨ IsFieldDescriptor text

instance (text : String) : Decidable (IsFieldDescriptor text) :=
  decidable_of_iff ((FieldType.ofDescriptor text).isOk = true) (by
    unfold IsFieldDescriptor
    cases FieldType.ofDescriptor text <;> simp [Except.isOk, Except.toBool])

instance (text : String) : Decidable (IsResultDescriptor text) :=
  inferInstanceAs (Decidable (_ ∨ _))

/-- The descriptor of a method, from the text of its parameters and that of its result. -/
def methodText (parameters result : String) : String := "(" ++ parameters ++ ")" ++ result

/-- Whether the text is that of a type of two slots. -/
def isWideText (text : String) : Bool := text == "J" || text == "D"

/-- What there is to say of a descriptor whose parameters have the given texts. -/
structure Measured (parameters : List String) (text : String) (d : MethodDescriptor) : Prop where
  read : MethodDescriptor.ofDescriptor text = .ok d
  arguments_le : argumentCount text ≤ d.parameterLength
  le_arguments : d.parameterLength ≤ 2 * argumentCount text
  /-- Arrays of `J` or `D` are references and do not count. -/
  narrow_iff : d.parameterLength = argumentCount text ↔ "J" ∉ parameters ∧ "D" ∉ parameters
  events : argumentEvents text =
    if "J" ∈ parameters ∨ "D" ∈ parameters then [.wideArguments text] else []

/-! ## From texts to types -/

/-- The text of a type. -/
def FieldType.text (t : FieldType) : String := String.ofList t.render

@[simp] theorem FieldType.toList_text (t : FieldType) : t.text.toList = t.render :=
  String.toList_ofList

theorem FieldType.ofDescriptor_eq_ok_iff {text : String} {t : FieldType} :
    ofDescriptor text = .ok t ↔ t.HasDescriptor ∧ text = t.text := by
  rw [← String.toList_inj, toList_text]
  exact FieldType.exact_parse.recognizes.parseAll_iff text t

theorem exists_types {texts : List String} (h : ∀ text ∈ texts, IsFieldDescriptor text) :
    ∃ types : List FieldType, (∀ t ∈ types, t.HasDescriptor) ∧
      texts = types.map FieldType.text := by
  induction texts with
  | nil => exact ⟨[], List.forall_mem_nil _, rfl⟩
  | cons text texts ih =>
    obtain ⟨⟨t, ht⟩, hrest⟩ := List.forall_mem_cons.1 h
    obtain ⟨hdescriptor, rfl⟩ := FieldType.ofDescriptor_eq_ok_iff.1 ht
    obtain ⟨types, htypes, rfl⟩ := ih hrest
    exact ⟨t :: types, List.forall_mem_cons.2 ⟨hdescriptor, htypes⟩, rfl⟩

theorem exists_result {text : String} (h : IsResultDescriptor text) :
    ∃ result : Option FieldType, (∀ t ∈ result, t.HasDescriptor) ∧
      text.toList = (result.map FieldType.render).getD ['V'] := by
  rcases h with rfl | ⟨t, ht⟩
  · exact ⟨none, by simp, rfl⟩
  · obtain ⟨hdescriptor, rfl⟩ := FieldType.ofDescriptor_eq_ok_iff.1 ht
    refine ⟨some t, ?_, t.toList_text⟩
    rintro _ ⟨⟩
    exact hdescriptor

/-- The texts of the parameters come out of the descriptor as they went in. -/
theorem exists_ofDescriptor_methodText {texts : List String} {result : String}
    (htexts : ∀ text ∈ texts, IsFieldDescriptor text) (hresult : IsResultDescriptor result) :
    ∃ d, MethodDescriptor.ofDescriptor (methodText (String.join texts) result) = .ok d ∧
      d.parameters.map FieldType.text = texts := by
  obtain ⟨types, htypes, rfl⟩ := exists_types htexts
  obtain ⟨type?, htype?, hrender⟩ := exists_result hresult
  refine ⟨⟨types, type?⟩, ?_, rfl⟩
  refine (MethodDescriptor.exact_parse.recognizes.parseAll_iff _ _).2 ⟨⟨htypes, htype?⟩, ?_⟩
  simp [methodText, MethodDescriptor.render, List.flatMap_map, hrender]

/-! ## Slots -/

/-- Only `J` and `D` are texts of a type of two slots. -/
theorem FieldType.width_eq (t : FieldType) : t.width = if isWideText t.text then 2 else 1 := by
  cases t with
  | base b => cases b <;> decide
  | ref r =>
    have hnarrow : isWideText (FieldType.ref r).text = false := by
      obtain ⟨c, cs, hrender, hc⟩ := r.exists_render_eq
      simp only [isWideText, Bool.or_eq_false_iff, beq_eq_false_iff_ne, ne_eq, ← String.toList_inj,
        toList_text, render, hrender]
      rcases hc with rfl | rfl <;> simp
    rw [hnarrow]
    rfl

/-- Each parameter adds the slots of its type to those that are taken before it. -/
theorem MethodDescriptor.slotsAfter_eq (d : MethodDescriptor) (taken : Nat) :
    d.slotsAfter taken = taken + d.parameters.length +
      (d.parameters.map FieldType.text).countP isWideText := by
  unfold slotsAfter
  induction d.parameters generalizing taken with
  | nil => simp
  | cons t types ih =>
    rw [List.foldl_cons, ih, t.width_eq, List.map_cons, List.countP_cons, List.length_cons]
    split <;> omega

theorem MethodDescriptor.parameterLengthWithThis_eq (d : MethodDescriptor) :
    d.parameterLengthWithThis = d.parameterLength + 1 := by
  rw [parameterLengthWithThis, parameterLength, slotsAfter_eq, slotsAfter_eq]
  omega

theorem countP_isWideText_eq_zero_iff (texts : List String) :
    texts.countP isWideText = 0 ↔ "J" ∉ texts ∧ "D" ∉ texts := by
  rw [List.countP_eq_zero]
  constructor
  · intro h
    exact ⟨fun hJ => h _ hJ rfl, fun hD => h _ hD rfl⟩
  · rintro ⟨hJ, hD⟩ text htext hwide
    simp only [isWideText, Bool.or_eq_true, beq_iff_eq] at hwide
    rcases hwide with rfl | rfl
    · exact hJ htext
    · exact hD htext

section Measures

variable {texts : List String} {text : String} {d : MethodDescriptor}

theorem argumentCount_of_texts (hread : MethodDescriptor.ofDescriptor text = .ok d)
    (htexts : d.parameters.map FieldType.text = texts) : argumentCount text = texts.length := by
  rw [argumentCount_of_ok hread, ← htexts, List.length_map]

theorem parameterLength_of_texts (htexts : d.parameters.map FieldType.text = texts) :
    d.parameterLength = texts.length + texts.countP isWideText := by
  rw [MethodDescriptor.parameterLength, MethodDescriptor.slotsAfter_eq, htexts, ← htexts,
    List.length_map, Nat.zero_add]

theorem measured_of_ofDescriptor (hread : MethodDescriptor.ofDescriptor text = .ok d)
    (htexts : d.parameters.map FieldType.text = texts) : Measured texts text d := by
  have hcount := argumentCount_of_texts hread htexts
  have hlength := parameterLength_of_texts htexts
  have hwide : texts.countP isWideText ≤ texts.length := List.countP_le_length
  have hnarrow : d.parameterLength = texts.length ↔ "J" ∉ texts ∧ "D" ∉ texts := by
    rw [← countP_isWideText_eq_zero_iff, hlength]
    omega
  refine ⟨hread, by omega, by omega, by rw [hcount, hnarrow], ?_⟩
  have hparameters : d.parameters.length = texts.length := by
    rw [← htexts, List.length_map]
  rw [argumentEvents, hread]
  simp only [hparameters, hnarrow]
  by_cases h : "J" ∈ texts ∨ "D" ∈ texts
  · rw [if_pos h, if_neg]
    rintro ⟨hJ, hD⟩
    exact h.elim hJ hD
  · rw [if_neg h, if_pos (not_or.1 h)]

end Measures

/-! ## Top theorem -/

/-- The receiver takes one slot more.  Where lists of parameters are joined, the arguments add up
and so do their slots, whatever the results are.  Every argument takes one slot or two, and the log
says when one takes two. -/
theorem parameters_add :
    (∀ d : MethodDescriptor, d.parameterLengthWithThis = d.parameterLength + 1) ∧
    ∀ (p q : List String) (r r₁ r₂ : String),
      (∀ text ∈ p, IsFieldDescriptor text) → (∀ text ∈ q, IsFieldDescriptor text) →
      IsResultDescriptor r → IsResultDescriptor r₁ → IsResultDescriptor r₂ →
      ∃ d d₁ d₂ : MethodDescriptor,
        Measured (p ++ q) (methodText (String.join p ++ String.join q) r) d ∧
        Measured p (methodText (String.join p) r₁) d₁ ∧
        Measured q (methodText (String.join q) r₂) d₂ ∧
        argumentCount (methodText (String.join p ++ String.join q) r) =
          argumentCount (methodText (String.join p) r₁) +
            argumentCount (methodText (String.join q) r₂) ∧
        d.parameterLength = d₁.parameterLength + d₂.parameterLength := by
  refine ⟨MethodDescriptor.parameterLengthWithThis_eq, ?_⟩
  intro p q r r₁ r₂ hp hq hr hr₁ hr₂
  have hjoin : String.join p ++ String.join q = String.join (p ++ q) := by
    rw [← String.toList_inj]
    simp
  have hpq : ∀ text ∈ p ++ q, IsFieldDescriptor text := by
    intro text htext
    rcases List.mem_append.1 htext with h | h
    · exact hp text h
    · exact hq text h
  obtain ⟨d, hd, htexts⟩ := exists_ofDescriptor_methodText hpq hr
  obtain ⟨d₁, hd₁, htexts₁⟩ := exists_ofDescriptor_methodText hp hr₁
  obtain ⟨d₂, hd₂, htexts₂⟩ := exists_ofDescriptor_methodText hq hr₂
  rw [hjoin]
  refine ⟨d, d₁, d₂, measured_of_ofDescriptor hd htexts, measured_of_ofDescriptor hd₁ htexts₁,
    measured_of_ofDescriptor hd₂ htexts₂, ?_, ?_⟩
  · rw [argumentCount_of_texts hd htexts, argumentCount_of_texts hd₁ htexts₁,
      argumentCount_of_texts hd₂ htexts₂, List.length_append]
  · rw [parameterLength_of_texts htexts, parameterLength_of_texts htexts₁,
      parameterLength_of_texts htexts₂, List.length_append, List.countP_append]
    omega

/-- Two lists of parameters, with a wide one and an array of wide ones in the first. -/
theorem parameters_add_wideFirst :
    ∃ d d₁ d₂ : MethodDescriptor,
      Measured ["J", "[D", "La/B;"] "(J[DLa/B;)V" d ∧ Measured ["J", "[D"] "(J[D)[J" d₁ ∧
      Measured ["La/B;"] "(La/B;)Z" d₂ ∧
      argumentCount "(J[DLa/B;)V" = argumentCount "(J[D)[J" + argumentCount "(La/B;)Z" ∧
      d.parameterLength = d₁.parameterLength + d₂.parameterLength ∧
      d.parameterLengthWithThis = d₁.parameterLength + d₂.parameterLengthWithThis := by
  have hp : ∀ text ∈ ["J", "[D"], IsFieldDescriptor text := by decide +kernel
  have hq : ∀ text ∈ ["La/B;"], IsFieldDescriptor text := by decide +kernel
  have hr : IsResultDescriptor "V" ∧ IsResultDescriptor "[J" ∧ IsResultDescriptor "Z" := by
    decide +kernel
  obtain ⟨hthis, hadd⟩ := parameters_add
  obtain ⟨d, d₁, d₂, hd, hd₁, hd₂, hcount, hlength⟩ := hadd _ _ _ _ _ hp hq hr.1 hr.2.1 hr.2.2
  exact ⟨d, d₁, d₂, hd, hd₁, hd₂, hcount, hlength, by rw [hthis, hthis, hlength]; rfl⟩

end CtorLeak
