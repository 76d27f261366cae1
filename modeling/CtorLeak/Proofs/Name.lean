import CtorLeak.Name

/-!
# The grammar of class names, and how classes are printed

A class name is checked segment by segment and printed segment by segment, each time by taking it
apart at its slashes.  Both follow from one description of the segments, which does not mention how
they are found:

    SlashSeparated text parts ↔ parts.map String.toList = segments text.toList (slashSeparated_iff)

Printing puts dots in place of the slashes.  That nothing is lost by it is owed to the check: a dot
is a reserved character, so that every dot of the printed name was a slash.  The names of array
classes are not checked, and for them it fails.
-/

namespace CtorLeak

/-! ## Grammar -/

/-- A part of a name: some characters, and none of them is reserved. -/
structure IsSegment (part : String) : Prop where
  nonempty : part ≠ ""
  plain : ∀ c ∈ part.toList, c ≠ '.' ∧ c ≠ ';' ∧ c ≠ '[' ∧ c ≠ '/'

/-- The text is the parts with a slash between any two of them. -/
structure SlashSeparated (text : String) (parts : List String) : Prop where
  nonempty : parts ≠ []
  noSlash : ∀ part ∈ parts, '/' ∉ part.toList
  joined : text = "/".intercalate parts

/-- The text starts as the name of an array class does. -/
def StartsWithBracket (text : String) : Prop := text.toList.head? = some '['

instance (text : String) : Decidable (StartsWithBracket text) :=
  inferInstanceAs (Decidable (_ = _))

/-- The names of classes: those of array classes, which are not looked into, and segments with
slashes between them. -/
def IsClassName (text : String) : Prop :=
  text ≠ "" ∧ (StartsWithBracket text ∨
    ∃ parts, SlashSeparated text parts ∧ ∀ part ∈ parts, IsSegment part)

/-- The first segment of the text that is none, with what is wrong with it. -/
def FirstBadSegment (text : String) (e : NameError) : Prop :=
  ∃ before part after, SlashSeparated text (before ++ part :: after) ∧
    (∀ b ∈ before, IsSegment b) ∧ UnqualifiedName.ofString part = .error e

/-- The text with one character in place of another. -/
def replaceChar (old new : Char) (text : String) : String :=
  text.map fun c => if c = old then new else c

/-! ## Segments -/

theorem segments_ne_nil (cs : List Char) : segments cs ≠ [] := by
  fun_cases segments cs <;> simp_all

/-- A slash in front opens a segment, and any other character goes into the first one. -/
theorem segments_cons_cases (c : Char) (cs : List Char) :
    c = '/' ∧ segments (c :: cs) = [] :: segments cs ∨
      c ≠ '/' ∧ ∃ part parts, segments cs = part :: parts ∧
        segments (c :: cs) = (c :: part) :: parts := by
  by_cases hc : c = '/'
  · exact .inl ⟨hc, by rw [segments, if_pos hc]⟩
  · obtain ⟨part, parts, h⟩ := List.exists_cons_of_ne_nil (segments_ne_nil cs)
    exact .inr ⟨hc, part, parts, h, by rw [segments, if_neg hc, h]⟩

theorem segments_eq_splitOn (cs : List Char) : segments cs = cs.splitOn '/' := by
  induction cs with
  | nil => rfl
  | cons c cs ih =>
    rw [List.splitOn, List.splitOnP_cons_eq_if_modifyHead, ← List.splitOn, ← ih]
    rcases segments_cons_cases c cs with ⟨hc, h⟩ | ⟨hc, part, parts, hcs, h⟩
    · rw [h, if_pos (beq_iff_eq.2 hc)]
    · rw [h, hcs, if_neg (by simpa using hc), List.modifyHead_cons]

theorem slash_notMem_of_mem_segments (cs : List Char) :
    ∀ part ∈ segments cs, '/' ∉ part := by
  induction cs with
  | nil => simp [segments]
  | cons c cs ih =>
    rcases segments_cons_cases c cs with ⟨-, h⟩ | ⟨hc, part, parts, hcs, h⟩
    · rw [h, List.forall_mem_cons]
      exact ⟨List.not_mem_nil, ih⟩
    · rw [hcs, List.forall_mem_cons] at ih
      rw [h, List.forall_mem_cons, List.mem_cons, not_or]
      exact ⟨⟨fun heq => hc heq.symm, ih.1⟩, ih.2⟩

/-- The segments are the only way to take a text apart at its slashes. -/
theorem slashSeparated_iff {text : String} {parts : List String} :
    SlashSeparated text parts ↔ parts.map String.toList = segments text.toList := by
  constructor
  · rintro ⟨hne, hslash, rfl⟩
    have hparts : ∀ part ∈ parts.map String.toList, '/' ∉ part := by
      rw [List.forall_mem_map]
      exact hslash
    rw [segments_eq_splitOn, String.toList_intercalate]
    exact (List.splitOn_intercalate '/' hparts (by simpa using hne)).symm
  · intro h
    refine ⟨?_, ?_, ?_⟩
    · rintro rfl
      exact segments_ne_nil _ h.symm
    · intro part hpart
      apply slash_notMem_of_mem_segments text.toList
      rw [← h]
      exact List.mem_map_of_mem hpart
    · rw [← String.toList_inj, String.toList_intercalate, h, segments_eq_splitOn]
      exact (List.intercalate_splitOn '/').symm

theorem exists_slashSeparated (text : String) : ∃ parts, SlashSeparated text parts := by
  refine ⟨(segments text.toList).map String.ofList, slashSeparated_iff.2 ?_⟩
  rw [List.map_map]
  simp [Function.comp_def]

/-! ## Acceptance -/

theorem UnqualifiedName.ofString_eq_ok_iff {text : String} {name : UnqualifiedName} :
    ofString text = .ok name ↔ name.text = text := by
  unfold ofString
  constructor
  · intro h
    split at h
    · cases h
      rfl
    · cases h
  · rintro rfl
    split
    · rfl
    · rename_i e he
      rw [name.valid] at he
      cases he

theorem BinaryName.ofString_eq_ok_iff {text : String} {name : BinaryName} :
    ofString text = .ok name ↔ name.text = text := by
  unfold ofString
  constructor
  · intro h
    split at h
    · cases h
      rfl
    · cases h
  · rintro rfl
    split
    · rfl
    · rename_i e he
      rw [name.valid] at he
      cases he

theorem UnqualifiedName.ofString_eq_error_iff {text : String} {e : NameError} :
    ofString text = .error e ↔ fault? text.toList = some e := by
  unfold ofString
  split <;> simp_all

theorem BinaryName.ofString_eq_error_iff {text : String} {e : NameError} :
    ofString text = .error e ↔ fault? text.toList = some e := by
  unfold ofString
  split <;> simp_all

theorem isReserved_eq_false_iff (c : Char) :
    isReserved c = false ↔ c ≠ '.' ∧ c ≠ ';' ∧ c ≠ '[' ∧ c ≠ '/' := by
  simp [isReserved, and_assoc]

theorem UnqualifiedName.fault?_eq_none_iff {part : String} :
    fault? part.toList = none ↔ IsSegment part := by
  unfold fault?
  constructor
  · intro h
    split at h
    · cases h
    · rename_i hreserved
      split at h
      · cases h
      · rename_i hempty
        refine ⟨?_, ?_⟩
        · rintro rfl
          exact hempty rfl
        · intro c hc
          rw [← isReserved_eq_false_iff]
          simp only [List.any_eq_true, not_exists, not_and] at hreserved
          simpa using hreserved c hc
  · rintro ⟨hne, hplain⟩
    rw [if_neg, if_neg]
    · simpa using hne
    · simp only [List.any_eq_true, not_exists, not_and]
      intro c hc
      simpa using (isReserved_eq_false_iff c).2 (hplain c hc)

/-- Past the two special cases a name has the fault of its first bad segment. -/
theorem BinaryName.fault?_of_slashSeparated {text : String} {parts : List String} (hne : text ≠ "")
    (hbracket : ¬ StartsWithBracket text) (h : SlashSeparated text parts) :
    fault? text.toList = parts.findSome? fun part => UnqualifiedName.fault? part.toList := by
  have hsegments : fault? text.toList =
      (segments text.toList).findSome? UnqualifiedName.fault? := by
    unfold fault?
    split
    · rename_i hnil
      exact absurd (String.toList_eq_nil_iff.1 hnil) hne
    · rename_i heq
      exact absurd (by rw [StartsWithBracket, heq, List.head?_cons]) hbracket
    · rfl
  rw [hsegments, ← slashSeparated_iff.1 h, List.findSome?_map]
  rfl

theorem BinaryName.fault?_of_startsWithBracket {text : String} (h : StartsWithBracket text) :
    fault? text.toList = none := by
  obtain ⟨cs, hcs⟩ := List.head?_eq_some_iff.1 h
  rw [hcs, fault?]

theorem BinaryName.fault?_eq_none_iff {text : String} :
    fault? text.toList = none ↔ IsClassName text := by
  by_cases hne : text = ""
  · subst hne
    simp [fault?, IsClassName]
  by_cases hbracket : StartsWithBracket text
  · simp [IsClassName, hne, hbracket, fault?_of_startsWithBracket hbracket]
  · simp only [IsClassName, ne_eq, hne, hbracket, not_false_eq_true, true_and, false_or]
    constructor
    · intro h
      obtain ⟨parts, hparts⟩ := exists_slashSeparated text
      rw [fault?_of_slashSeparated hne hbracket hparts, List.findSome?_eq_none_iff] at h
      exact ⟨parts, hparts, fun part hpart => UnqualifiedName.fault?_eq_none_iff.1 (h part hpart)⟩
    · rintro ⟨parts, hparts, hall⟩
      rw [fault?_of_slashSeparated hne hbracket hparts, List.findSome?_eq_none_iff]
      exact fun part hpart => UnqualifiedName.fault?_eq_none_iff.2 (hall part hpart)

theorem BinaryName.fault?_eq_some_iff {text : String} {e : NameError} :
    fault? text.toList = some e ↔
      text = "" ∧ e = .emptyBinary ∨
        text ≠ "" ∧ ¬ StartsWithBracket text ∧ FirstBadSegment text e := by
  by_cases hne : text = ""
  · subst hne
    simp [fault?, eq_comm]
  by_cases hbracket : StartsWithBracket text
  · simp [hne, hbracket, fault?_of_startsWithBracket hbracket]
  · simp only [ne_eq, hne, hbracket, not_false_eq_true, true_and, false_and, false_or]
    constructor
    · intro h
      obtain ⟨parts, hparts⟩ := exists_slashSeparated text
      rw [fault?_of_slashSeparated hne hbracket hparts, List.findSome?_eq_some_iff] at h
      obtain ⟨before, part, after, rfl, hpart, hbefore⟩ := h
      refine ⟨before, part, after, hparts, ?_, UnqualifiedName.ofString_eq_error_iff.2 hpart⟩
      exact fun b hb => UnqualifiedName.fault?_eq_none_iff.1 (hbefore b hb)
    · rintro ⟨before, part, after, hparts, hbefore, hpart⟩
      rw [fault?_of_slashSeparated hne hbracket hparts, List.findSome?_eq_some_iff]
      refine ⟨before, part, after, rfl, UnqualifiedName.ofString_eq_error_iff.1 hpart, ?_⟩
      exact fun b hb => UnqualifiedName.fault?_eq_none_iff.2 (hbefore b hb)

/-! ## Printing -/

/-- Another character between the segments takes the place of the slashes. -/
theorem intercalate_segments (separator : Char) (cs : List Char) :
    [separator].intercalate (segments cs) = cs.map fun c => if c = '/' then separator else c := by
  induction cs with
  | nil => rfl
  | cons c cs ih =>
    rw [List.map_cons, ← ih]
    rcases segments_cons_cases c cs with ⟨hc, h⟩ | ⟨hc, part, parts, hcs, h⟩
    · rw [h, if_pos hc, List.intercalate_cons_of_ne_nil (segments_ne_nil cs)]
      rfl
    · rw [h, if_neg hc, hcs]
      cases parts with
      | nil => simp
      | cons next parts => simp

theorem BinaryName.dotted_eq_replaceChar (name : BinaryName) :
    name.dotted = replaceChar '/' '.' name.text := by
  rw [← String.toList_inj, dotted, String.toList_ofList, intercalate_segments, replaceChar,
    String.toList_map]

/-- Two replacements undo each other on a text that did not have the new character before. -/
theorem replaceChar_replaceChar {old new : Char} {text : String} (h : new ∉ text.toList) :
    replaceChar new old (replaceChar old new text) = text := by
  rw [← String.toList_inj, replaceChar, replaceChar, String.toList_map, String.toList_map,
    List.map_map]
  refine (List.map_congr_left ?_).trans (List.map_id _)
  intro c hc
  have hne : c ≠ new := fun heq => h (heq ▸ hc)
  by_cases hold : c = old
  · simp [hold]
  · simp [hold, hne]

/-- Every character of a text that is no slash is in one of the segments. -/
theorem exists_mem_segments {x : Char} {cs : List Char} (hx : x ∈ cs) (hslash : x ≠ '/') :
    ∃ part ∈ segments cs, x ∈ part := by
  induction cs with
  | nil => cases hx
  | cons c cs ih =>
    rcases segments_cons_cases c cs with ⟨hc, h⟩ | ⟨-, first, parts, hcs, h⟩
    · have hne : x ≠ c := fun heq => hslash (heq.trans hc)
      obtain ⟨part, hpart, hmem⟩ := ih ((List.mem_cons.1 hx).resolve_left hne)
      rw [h]
      exact ⟨part, List.mem_cons_of_mem _ hpart, hmem⟩
    · rw [hcs] at ih
      rw [h]
      rcases List.mem_cons.1 hx with rfl | hx
      · exact ⟨_, List.mem_cons_self, List.mem_cons_self⟩
      obtain ⟨part, hpart, hmem⟩ := ih hx
      rcases List.mem_cons.1 hpart with rfl | hpart
      · exact ⟨_, List.mem_cons_self, List.mem_cons_of_mem c hmem⟩
      · exact ⟨part, List.mem_cons_of_mem _ hpart, hmem⟩

/-- The check keeps dots out of the names that it looks into. -/
theorem BinaryName.dot_notMem_text {name : BinaryName} (h : ¬ StartsWithBracket name.text) :
    '.' ∉ name.text.toList := by
  obtain ⟨-, hbracket | ⟨parts, hparts, hall⟩⟩ := fault?_eq_none_iff.1 name.valid
  · exact absurd hbracket h
  · intro hdot
    obtain ⟨cs, hcs, hmem⟩ := exists_mem_segments hdot (by decide)
    rw [← slashSeparated_iff.1 hparts, List.mem_map] at hcs
    obtain ⟨part, hpart, rfl⟩ := hcs
    exact ((hall part hpart).plain '.' hmem).1 rfl

theorem BinaryName.replaceChar_dotted {name : BinaryName} (h : ¬ StartsWithBracket name.text) :
    replaceChar '.' '/' name.dotted = name.text := by
  rw [dotted_eq_replaceChar, replaceChar_replaceChar (dot_notMem_text h)]

/-! ## Top theorem -/

/-- A text is the name of a class exactly if the grammar has it, and then it is taken as it stands.
Any other text is refused, the empty one as such and the others for their first bad segment.
Printing replaces the slashes by dots; if the name is not that of an array class it can be had back,
so that no two of these names are printed alike. -/
theorem BinaryName.grammar_and_display :
    (∀ text, (∃ name, ofString text = .ok name) ↔ IsClassName text) ∧
    (∀ text name, ofString text = .ok name → name.text = text) ∧
    (∀ text e, ofString text = .error e ↔
      text = "" ∧ e = .emptyBinary ∨
        text ≠ "" ∧ ¬ StartsWithBracket text ∧ FirstBadSegment text e) ∧
    (∀ name : BinaryName, name.dotted = replaceChar '/' '.' name.text) ∧
    (∀ name : BinaryName, ¬ StartsWithBracket name.text →
      replaceChar '.' '/' name.dotted = name.text) ∧
    ∀ a b : BinaryName, ¬ StartsWithBracket a.text → ¬ StartsWithBracket b.text →
      a.dotted = b.dotted → a = b := by
  refine ⟨?_, fun text name => ofString_eq_ok_iff.1, ?_, dotted_eq_replaceChar,
    fun name => replaceChar_dotted, ?_⟩
  · intro text
    rw [← fault?_eq_none_iff]
    constructor
    · rintro ⟨name, hname⟩
      rw [← ofString_eq_ok_iff.1 hname]
      exact name.valid
    · intro hvalid
      exact ⟨⟨text, hvalid⟩, ofString_eq_ok_iff.2 rfl⟩
  · intro text e
    rw [ofString_eq_error_iff, fault?_eq_some_iff]
  · intro a b ha hb h
    ext1
    rw [← replaceChar_dotted ha, ← replaceChar_dotted hb, h]

/-- A name of two bad segments is refused for the first of them; two classes that differ in a letter
differ when they are printed. -/
theorem BinaryName.grammar_and_display_objects :
    ofString "a//b." = .error .emptyUnqualified ∧
      replaceChar '.' '/' object.dotted = "java/lang/Object" ∧
      object.dotted ≠ (⟨"java/lang/Objects", by decide⟩ : BinaryName).dotted := by
  obtain ⟨-, -, herror, -, hback, hinjective⟩ := grammar_and_display
  refine ⟨(herror _ _).2 (.inr ⟨by decide, by decide, ["a"], "", ["b."], ⟨?_, ?_, ?_⟩, ?_, rfl⟩),
    hback object (by decide), ?_⟩
  · decide
  · decide
  · decide
  · intro b hb
    rw [List.mem_singleton.1 hb, ← UnqualifiedName.fault?_eq_none_iff]
    decide
  · intro h
    exact absurd (hinjective _ _ (by decide) (by decide) h) (by decide)

-- The names of array classes are printed alike if they differ in a dot only.
example : (⟨"[La/b;", by decide⟩ : BinaryName).dotted =
    (⟨"[La.b;", by decide⟩ : BinaryName).dotted := by
  decide

end CtorLeak
