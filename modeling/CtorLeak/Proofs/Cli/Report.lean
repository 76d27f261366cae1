import Mathlib.Data.List.Forall2
import CtorLeak.ClassFile.Writer
import CtorLeak.Cli.Report
import CtorLeak.Proofs.Check

/-!
# Reports add up

Each file has a verdict of its own (`HasVerdict`): it fails, because it cannot be read, is no class
file or cannot be checked to its end, or it goes through with its findings.  What was found before a
check failed is not part of the verdict.

A report is made of these verdicts alone: lines, counts and exit code of several files come from
those of each file (`report_aggregates`).  What a line and the summary look like is said once more
as plain texts (`ReportLine.text`, `Counts.text`), apart from the styled text that is printed.

Files are counted in 32 bits.  The laws of the counts hold for any number of files, since counts
that wrap around still add up; what they say about the files holds for fewer than 2147483648.
-/

namespace CtorLeak.Cli

/-! ## Verdicts -/

/-- What checking a file comes to: why it fails, or its findings. -/
abbrev Verdict := Except FormatError (List Finding)

namespace Verdict

def isFailure : Verdict → Bool
  | .error _ => true
  | .ok _ => false

def findings : Verdict → List Finding
  | .error _ => []
  | .ok found => found

/-- The lines about a file with this verdict. -/
def lines (quiet : Bool) (path : String) : Verdict → List ReportLine
  | .error e => [.unreadable path e]
  | .ok found => if quiet then [] else found.map (.finding path)

end Verdict

/-- Numbers of findings, of files that go through and of files that fail. -/
structure Counts where
  findings : Nat
  classes : Nat
  unreadable : Nat

/-- The numbers for files with these verdicts. -/
def Verdict.counts (verdicts : List Verdict) : Counts where
  findings := (verdicts.flatMap findings).length
  classes := verdicts.countP (!·.isFailure)
  unreadable := verdicts.countP isFailure

/-- How the check of a file ends. -/
inductive HasVerdict (settings : Settings) (input : Input) : Verdict → Prop where
  /-- The file cannot be read. -/
  | unread {e : IoError} (hcontent : input.content = .error e) :
      HasVerdict settings input (.error (.io e))
  /-- The file is no class file. -/
  | malformed {bytes : List UInt8} {e : FormatError} (hcontent : input.content = .ok bytes)
      (hclass : ClassFile.ofBytes bytes = .error e) : HasVerdict settings input (.error e)
  /-- The check of the class fails, whatever was found before. -/
  | failed {bytes : List UInt8} {c : ClassFile} {e : FormatError} {found : List Finding}
      (hcontent : input.content = .ok bytes) (hclass : ClassFile.ofBytes bytes = .ok c)
      (hcheck : CheckOutcome settings c [] (.error e) found) : HasVerdict settings input (.error e)
  | checked {bytes : List UInt8} {c : ClassFile} {n : Nat} {found : List Finding}
      (hcontent : input.content = .ok bytes) (hclass : ClassFile.ofBytes bytes = .ok c)
      (hcheck : CheckOutcome settings c [] (.ok n) found) : HasVerdict settings input (.ok found)

namespace Input

variable {settings : Settings} {input : Input}

theorem check_of_content {bytes : List UInt8} (hcontent : input.content = .ok bytes) :
    input.check settings = (checkBytes settings bytes).toExcept := by
  rw [check, hcontent]

theorem check_of_hasVerdict {v : Verdict} (h : HasVerdict settings input v) :
    input.check settings = v := by
  cases h with
  | unread hcontent => rw [check, hcontent]
  | malformed hcontent hclass =>
    rw [check_of_content hcontent, toExcept_checkBytes_of_malformed hclass]
  | failed hcontent hclass hcheck | checked hcontent hclass hcheck =>
    rw [check_of_content hcontent, toExcept_checkBytes_of_outcome hclass hcheck]
    rfl

/-- Every file has a verdict, and it is what the check answers. -/
theorem hasVerdict_check (settings : Settings) (input : Input) :
    HasVerdict settings input (input.check settings) := by
  have hexists : ∃ v, HasVerdict settings input v := by
    cases hcontent : input.content with
    | error e => exact ⟨_, .unread hcontent⟩
    | ok bytes =>
      cases hclass : ClassFile.ofBytes bytes with
      | error e => exact ⟨_, .malformed hcontent hclass⟩
      | ok c =>
        obtain ⟨result, found, hcheck⟩ := ClassFile.exists_checkOutcome settings c []
        cases result with
        | error e => exact ⟨_, .failed hcontent hclass hcheck⟩
        | ok n => exact ⟨_, .checked hcontent hclass hcheck⟩
  obtain ⟨v, hv⟩ := hexists
  rwa [check_of_hasVerdict hv]

end Input

theorem hasVerdict_iff {settings : Settings} {input : Input} {v : Verdict} :
    HasVerdict settings input v ↔ input.check settings = v :=
  ⟨Input.check_of_hasVerdict, fun h => h ▸ Input.hasVerdict_check settings input⟩

def Fails (settings : Settings) (input : Input) : Prop :=
  ∃ e, HasVerdict settings input (.error e)

/-- The file goes through and has a finding. -/
def Finds (settings : Settings) (input : Input) : Prop :=
  ∃ f found, HasVerdict settings input (.ok (f :: found))

/-! ## Texts -/

/-- What resets a terminal with colours and then sets a style; nothing where there are none. -/
def restyle (colored : Bool) (codes : String) : String :=
  if colored then "\x1b[0m" ++ codes else ""

/-- Where `this` gets out. -/
def siteText : Leak → String
  | .argument call _ target => "passed to " ++ target ++ " at instruction " ++ toString call
  | .store index field => "stored into " ++ field ++ " at instruction " ++ toString index

/-- A line as it is printed. -/
def ReportLine.text (colored : Bool) : ReportLine → String
  | .finding path f =>
    restyle colored "\x1b[1m" ++ f.owner.dotted ++ restyle colored "" ++ ": " ++
      restyle colored "\x1b[31m" ++ "The 'this' reference is exposed outside the constructor" ++
      restyle colored "\x1b[2m" ++ " (" ++ siteText f.leak ++ ") [" ++ path ++ "]\n" ++
      restyle colored ""
  | .unreadable path e =>
    restyle colored "\x1b[33m" ++ "ERROR " ++ restyle colored "" ++ path ++ ": ClassFormat(" ++
      e.describe ++ ")\n"

namespace Counts

/-- What is written in the summary; the files that fail only if there are some. -/
def summary (c : Counts) : String :=
  toString c.findings ++ " finding(s) in " ++ toString c.classes ++ " class(es)" ++
    if 0 < c.unreadable then ", " ++ toString c.unreadable ++ " unreadable" else ""

/-- Yellow if a file fails, else red if there is a finding, else green. -/
def colorCode (c : Counts) : String :=
  if 0 < c.unreadable then "\x1b[33m" else if 0 < c.findings then "\x1b[31m" else "\x1b[32m"

/-- The summary as it is printed. -/
def text (colored : Bool) (c : Counts) : String :=
  restyle colored ("\x1b[1m" ++ c.colorCode) ++ c.summary ++ restyle colored "" ++ "\n"

end Counts

namespace Span

variable (colored : Bool)

theorem render_reset : render colored .reset = restyle colored "" := by
  cases colored <;> rfl

/-- A style is set by the sequences of its codes, of which the first one resets. -/
theorem render_style {style : Style} {codes : String}
    (h : String.join (style.codes.map escape) = "\x1b[0m" ++ codes) :
    render colored (.style style) = restyle colored codes := by
  rw [render, restyle, h]

end Span

theorem render_eq_siteText (l : Leak) : l.render = siteText l := by
  cases l <;> rfl

/-- Printing a line gives its text. -/
theorem ReportLine.renderAll_spans (colored : Bool) (line : ReportLine) :
    Span.renderAll colored line.spans = line.text colored := by
  cases line with
  | finding path f =>
    have hbold : Span.render colored (.style { bold := true }) = restyle colored "\x1b[1m" :=
      Span.render_style colored rfl
    have hred : Span.render colored (.style { color := some .red }) = restyle colored "\x1b[31m" :=
      Span.render_style colored rfl
    have hdimmed : Span.render colored (.style { dimmed := true }) = restyle colored "\x1b[2m" :=
      Span.render_style colored rfl
    simp only [ReportLine.spans, Span.renderAll_cons, Span.renderAll_nil, Span.render_text,
      Span.render_reset, hbold, hred, hdimmed, render_eq_siteText, Finding.message, ReportLine.text,
      String.append_assoc, String.append_empty]
    rfl
  | unreadable path e =>
    have hyellow : Span.render colored (.style { color := some .yellow }) =
        restyle colored "\x1b[33m" :=
      Span.render_style colored rfl
    simp only [ReportLine.spans, Span.renderAll_cons, Span.renderAll_nil, Span.render_text,
      Span.render_reset, hyellow, Text.tagged, ReportLine.text, String.append_assoc,
      String.append_empty]
    rfl

/-! ## Counts -/

/-- The numbers as they are counted, files in 32 bits. -/
def Tally.ofCounts (c : Counts) : Tally :=
  ⟨c.findings, .ofNat c.classes, .ofNat c.unreadable⟩

/-- Of a number that 32 bits are enough for, counting keeps whether there is anything to count. -/
theorem ofNat_pos_iff {n : Nat} (h : n < 2147483648) : 0 < Int32.ofNat n ↔ 0 < n := by
  rw [Int32.lt_iff_toInt_lt, Int32.toInt_ofNat_of_lt h]
  exact Int.natCast_pos

theorem toString_ofNat {n : Nat} (h : n < 2147483648) : toString (Int32.ofNat n) = toString n := by
  show toString (Int32.ofNat n).toInt = _
  rw [Int32.toInt_ofNat_of_lt h]
  rfl

namespace Tally

theorem eq_of_counts {a b : Tally} (hfindings : a.findings = b.findings)
    (hclasses : a.classes = b.classes) (hunreadable : a.unreadable = b.unreadable) : a = b := by
  cases a
  cases b
  simp_all

theorem empty_add (t : Tally) : {} + t = t :=
  eq_of_counts (Nat.zero_add _) (Int32.zero_add _) (Int32.zero_add _)

theorem add_comm (a b : Tally) : a + b = b + a :=
  eq_of_counts (Nat.add_comm _ _) (Int32.add_comm _ _) (Int32.add_comm _ _)

theorem add_assoc (a b c : Tally) : a + b + c = a + (b + c) :=
  eq_of_counts (Nat.add_assoc _ _ _) (Int32.add_assoc _ _ _) (Int32.add_assoc _ _ _)

theorem add_left_comm (a b c : Tally) : a + (b + c) = b + (a + c) := by
  rw [← add_assoc, add_comm a b, add_assoc]

/-- The exit code for what is either of two things is the worse of theirs, which is the greater
number. -/
theorem exitCode_eq_max {a b c : Tally}
    (hunreadable : 0 < c.unreadable ↔ 0 < a.unreadable ∨ 0 < b.unreadable)
    (hfindings : 0 < c.findings ↔ 0 < a.findings ∨ 0 < b.findings) :
    c.exitCode = max a.exitCode b.exitCode := by
  simp only [exitCode, hunreadable, hfindings]
  by_cases ha : 0 < a.unreadable <;> by_cases hb : 0 < b.unreadable <;>
    by_cases hfa : 0 < a.findings <;> by_cases hfb : 0 < b.findings <;>
    simp only [ha, hb, hfa, hfb, or_self, or_true, true_or, if_true, if_false] <;> rfl

theorem render_color_ofCounts {c : Counts} (hunreadable : c.unreadable < 2147483648)
    (colored : Bool) :
    Span.render colored (.style { bold := true, color := some (ofCounts c).color }) =
      restyle colored ("\x1b[1m" ++ c.colorCode) := by
  refine Span.render_style colored ?_
  unfold color Counts.colorCode ofCounts
  simp only [ofNat_pos_iff hunreadable]
  by_cases hu : 0 < c.unreadable
  · simp only [hu, if_true]
    rfl
  · by_cases hf : 0 < c.findings
    · simp only [hu, hf, if_true, if_false]
      rfl
    · simp only [hu, hf, if_false]
      rfl

theorem summary_ofCounts {c : Counts} (hclasses : c.classes < 2147483648)
    (hunreadable : c.unreadable < 2147483648) : (ofCounts c).summary = c.summary := by
  unfold summary Counts.summary ofCounts
  simp only [ofNat_pos_iff hunreadable, toString_ofNat hclasses, toString_ofNat hunreadable]
  rfl

/-- Printing the summary gives its text. -/
theorem renderAll_spans {c : Counts} (hclasses : c.classes < 2147483648)
    (hunreadable : c.unreadable < 2147483648) (colored : Bool) :
    Span.renderAll colored (ofCounts c).spans = c.text colored := by
  simp only [spans, Span.renderAll_cons, Span.renderAll_nil, Span.render_text, Span.render_reset,
    render_color_ofCounts hunreadable, summary_ofCounts hclasses hunreadable, Counts.text,
    String.append_assoc, String.append_empty]

end Tally

section Counts

variable (settings : Settings)

theorem tally_cons (input : Input) (rest : List Input) :
    tally settings (input :: rest) = Tally.ofCheck (input.check settings) + tally settings rest :=
  rfl

theorem tally_append (xs ys : List Input) :
    tally settings (xs ++ ys) = tally settings xs + tally settings ys := by
  induction xs with
  | nil => exact (Tally.empty_add _).symm
  | cons x xs ih => rw [List.cons_append, tally_cons, tally_cons, ih, Tally.add_assoc]

theorem tally_perm {xs ys : List Input} (h : xs.Perm ys) :
    tally settings xs = tally settings ys := by
  induction h with
  | nil => rfl
  | cons x _ ih => rw [tally_cons, tally_cons, ih]
  | swap x y l =>
    rw [tally_cons, tally_cons, tally_cons, tally_cons, Tally.add_left_comm]
  | trans _ _ ih₁ ih₂ => exact ih₁.trans ih₂

/-- A file that fails counts as unreadable and for nothing else. -/
theorem tally_failure {input : Input} {e : FormatError} (h : HasVerdict settings input (.error e))
    (before after : List Input) :
    tally settings (before ++ input :: after) =
      { tally settings (before ++ after) with
        unreadable := (tally settings (before ++ after)).unreadable + 1 } := by
  rw [tally_append, tally_cons, Input.check_of_hasVerdict h, Tally.add_left_comm, ← tally_append]
  exact Tally.eq_of_counts (Nat.zero_add _) (Int32.zero_add _) (Int32.add_comm _ _)

theorem ofCounts_cons (v : Verdict) (verdicts : List Verdict) :
    Tally.ofCounts (Verdict.counts (v :: verdicts)) =
      Tally.ofCheck v + Tally.ofCounts (Verdict.counts verdicts) := by
  have hfindings : ((v :: verdicts).flatMap Verdict.findings).length =
      v.findings.length + (verdicts.flatMap Verdict.findings).length := by
    rw [List.flatMap_cons, List.length_append]
  have hcount (p : Verdict → Bool) : Int32.ofNat ((v :: verdicts).countP p) =
      .ofNat (if p v then 1 else 0) + .ofNat (verdicts.countP p) := by
    rw [List.countP_cons, Nat.add_comm, Int32.ofNat_add]
  have hclasses := hcount (!·.isFailure)
  have hunreadable := hcount Verdict.isFailure
  cases v with
  | error e => exact Tally.eq_of_counts hfindings hclasses hunreadable
  | ok found => exact Tally.eq_of_counts hfindings hclasses hunreadable

theorem tally_of_verdicts {inputs : List Input} {verdicts : List Verdict}
    (h : List.Forall₂ (HasVerdict settings) inputs verdicts) :
    tally settings inputs = .ofCounts (Verdict.counts verdicts) := by
  induction h with
  | nil => rfl
  | cons hv _ ih => rw [tally_cons, ofCounts_cons, ih, Input.check_of_hasVerdict hv]

theorem hasVerdict_checks (inputs : List Input) :
    List.Forall₂ (HasVerdict settings) inputs (inputs.map fun input => input.check settings) := by
  rw [List.forall₂_map_right_iff, List.forall₂_same]
  intro input _
  exact Input.hasVerdict_check settings input

theorem tally_eq_ofCounts (inputs : List Input) :
    tally settings inputs =
      .ofCounts (Verdict.counts (inputs.map fun input => input.check settings)) :=
  tally_of_verdicts settings (hasVerdict_checks settings inputs)

/-- Each file is counted once at most. -/
theorem counts_lt {inputs : List Input} {verdicts : List Verdict}
    (h : List.Forall₂ (HasVerdict settings) inputs verdicts) (hlt : inputs.length < 2147483648) :
    (Verdict.counts verdicts).classes < 2147483648 ∧
      (Verdict.counts verdicts).unreadable < 2147483648 := by
  rw [h.length_eq] at hlt
  exact ⟨Nat.lt_of_le_of_lt List.countP_le_length hlt,
    Nat.lt_of_le_of_lt List.countP_le_length hlt⟩

theorem unreadable_pos_iff {inputs : List Input} (hlt : inputs.length < 2147483648) :
    0 < (tally settings inputs).unreadable ↔ ∃ input ∈ inputs, Fails settings input := by
  have hcount := counts_lt settings (hasVerdict_checks settings inputs) hlt
  rw [tally_eq_ofCounts]
  refine (ofNat_pos_iff hcount.2).trans ?_
  simp only [Verdict.counts, List.countP_map, List.countP_pos_iff, Function.comp_apply, Fails,
    hasVerdict_iff]
  refine exists_congr fun input => and_congr_right fun _ => ?_
  cases input.check settings <;> simp [Verdict.isFailure]

theorem findings_pos_iff (inputs : List Input) :
    0 < (tally settings inputs).findings ↔ ∃ input ∈ inputs, Finds settings input := by
  rw [tally_eq_ofCounts]
  simp only [Tally.ofCounts, Verdict.counts, List.flatMap_map, List.length_pos_iff, Ne,
    List.flatMap_eq_nil_iff, not_forall, exists_prop, Finds, hasVerdict_iff]
  refine exists_congr fun input => and_congr_right fun _ => ?_
  cases input.check settings with
  | error e => simp [Verdict.findings]
  | ok found => cases found <;> simp [Verdict.findings]

/-- The exit code for two lists of files is the worse one of theirs. -/
theorem exitCode_append {xs ys : List Input} (hlt : (xs ++ ys).length < 2147483648) :
    (tally settings (xs ++ ys)).exitCode =
      max (tally settings xs).exitCode (tally settings ys).exitCode := by
  have hlength := hlt
  rw [List.length_append] at hlength
  refine Tally.exitCode_eq_max ?_ ?_
  · rw [unreadable_pos_iff settings hlt, unreadable_pos_iff settings (by omega),
      unreadable_pos_iff settings (by omega)]
    simp only [List.mem_append, or_and_right, exists_or]
  · simp only [findings_pos_iff, List.mem_append, or_and_right, exists_or]

end Counts

/-! ## Lines -/

section Lines

variable (options : Options)

/-- The lines of a file that are shown. -/
theorem filter_ofCheck (quiet : Bool) (path : String) (v : Verdict) :
    (ReportLine.ofCheck path v).filter (fun line => !(quiet && line.isFinding)) =
      v.lines quiet path := by
  cases v with
  | error e => simp [ReportLine.ofCheck, ReportLine.isFinding, Verdict.lines]
  | ok found =>
    cases quiet with
    | false => simp [ReportLine.ofCheck, Verdict.lines]
    | true => simp [ReportLine.ofCheck, ReportLine.isFinding, Verdict.lines]

theorem shownLines_cons (input : Input) (rest : List Input) :
    shownLines options (input :: rest) =
      Verdict.lines options.quiet input.path (input.check options.settings) ++
        shownLines options rest := by
  unfold shownLines reportLines
  rw [List.flatMap_cons, List.filter_append, filter_ofCheck]

theorem shownLines_append (xs ys : List Input) :
    shownLines options (xs ++ ys) = shownLines options xs ++ shownLines options ys := by
  unfold shownLines reportLines
  rw [List.flatMap_append, List.filter_append]

theorem shownLines_of_verdicts {inputs : List Input} {verdicts : List Verdict}
    (h : List.Forall₂ (HasVerdict options.settings) inputs verdicts) :
    shownLines options inputs =
      (inputs.zip verdicts).flatMap fun p => p.2.lines options.quiet p.1.path := by
  induction h with
  | nil => rfl
  | cons hv _ ih =>
    rw [shownLines_cons, ih, Input.check_of_hasVerdict hv, List.zip_cons_cons, List.flatMap_cons]

/-- Being quiet leaves out the findings and nothing else. -/
theorem shownLines_quiet (settings : Settings) (inputs : List Input) :
    shownLines ⟨settings, true⟩ inputs =
      (shownLines ⟨settings, false⟩ inputs).filter fun line => !line.isFinding := by
  unfold shownLines
  rw [List.filter_filter]
  simp

/-- A report is printed as the texts of its lines, one after the other, and the summary. -/
theorem renderAll_report (colored : Bool) (inputs : List Input) :
    Span.renderAll colored (report options inputs).output =
      String.join ((shownLines options inputs).map (ReportLine.text colored)) ++
        Span.renderAll colored (tally options.settings inputs).spans := by
  have hlines (lines : List ReportLine) : Span.renderAll colored (lines.flatMap ReportLine.spans) =
      String.join (lines.map (ReportLine.text colored)) := by
    induction lines with
    | nil => rfl
    | cons line lines ih =>
      rw [List.flatMap_cons, Span.renderAll_append, ReportLine.renderAll_spans, ih, List.map_cons,
        String.join_cons]
  unfold report
  rw [Span.renderAll_append, hlines]

end Lines

/-! ## Top theorem -/

/-- How a report on several files comes about. -/
structure Aggregates (options : Options) : Prop where
  /-- Lines and counts come from the verdict on each file. -/
  verdicts : ∀ inputs, ∃ verdicts, List.Forall₂ (HasVerdict options.settings) inputs verdicts ∧
    shownLines options inputs =
      (inputs.zip verdicts).flatMap (fun p => p.2.lines options.quiet p.1.path) ∧
    tally options.settings inputs = .ofCounts (Verdict.counts verdicts)
  /-- The texts of the lines about the files are printed, then the summary. -/
  printed : ∀ colored inputs, Span.renderAll colored (report options inputs).output =
    String.join ((shownLines options inputs).map (ReportLine.text colored)) ++
      Span.renderAll colored (tally options.settings inputs).spans
  /-- The summary has the numbers of findings and of files that go through, and of files that fail
  if there are some. -/
  summary : ∀ colored inputs verdicts, inputs.length < 2147483648 →
    List.Forall₂ (HasVerdict options.settings) inputs verdicts →
    Span.renderAll colored (tally options.settings inputs).spans =
      (Verdict.counts verdicts).text colored
  exit_of_fails : ∀ inputs, inputs.length < 2147483648 →
    (∃ input ∈ inputs, Fails options.settings input) → (report options inputs).exitCode = 2
  exit_of_finds : ∀ inputs, inputs.length < 2147483648 →
    (¬ ∃ input ∈ inputs, Fails options.settings input) →
    (∃ input ∈ inputs, Finds options.settings input) → (report options inputs).exitCode = 1
  exit_of_clean : ∀ inputs, inputs.length < 2147483648 →
    (¬ ∃ input ∈ inputs, Fails options.settings input) →
    (¬ ∃ input ∈ inputs, Finds options.settings input) → (report options inputs).exitCode = 0
  /-- A file that fails adds its line and one to the unreadable files.  The other files have the
  lines and counts that they have without it. -/
  failure : ∀ before input after e, HasVerdict options.settings input (.error e) →
    shownLines options (before ++ input :: after) =
      shownLines options before ++ .unreadable input.path e :: shownLines options after ∧
    tally options.settings (before ++ input :: after) =
      { tally options.settings (before ++ after) with
        unreadable := (tally options.settings (before ++ after)).unreadable + 1 }
  lines_append : ∀ xs ys,
    shownLines options (xs ++ ys) = shownLines options xs ++ shownLines options ys
  findings_append : ∀ xs ys, (tally options.settings (xs ++ ys)).findings =
    (tally options.settings xs).findings + (tally options.settings ys).findings
  classes_append : ∀ xs ys, (tally options.settings (xs ++ ys)).classes =
    (tally options.settings xs).classes + (tally options.settings ys).classes
  unreadable_append : ∀ xs ys, (tally options.settings (xs ++ ys)).unreadable =
    (tally options.settings xs).unreadable + (tally options.settings ys).unreadable
  exit_append : ∀ xs ys, (xs ++ ys).length < 2147483648 → (report options (xs ++ ys)).exitCode =
    max (report options xs).exitCode (report options ys).exitCode
  /-- The order of the files matters neither to the exit code nor to the summary. -/
  perm : ∀ xs ys : List Input, xs.Perm ys →
    (report options xs).exitCode = (report options ys).exitCode ∧
    (tally options.settings xs).spans = (tally options.settings ys).spans
  /-- Being quiet leaves out the findings and nothing else. -/
  quiet : ∀ colored inputs,
    Span.renderAll colored (report { options with quiet := false } inputs).output =
      String.join ((shownLines { options with quiet := false } inputs).map
        (ReportLine.text colored)) ++
        Span.renderAll colored (tally options.settings inputs).spans ∧
    Span.renderAll colored (report { options with quiet := true } inputs).output =
      String.join (((shownLines { options with quiet := false } inputs).filter
        fun line => !line.isFinding).map (ReportLine.text colored)) ++
        Span.renderAll colored (tally options.settings inputs).spans ∧
    (report { options with quiet := true } inputs).exitCode =
      (report { options with quiet := false } inputs).exitCode

/-- A report on several files is made of the reports on each of them. -/
theorem report_aggregates (options : Options) : Aggregates options where
  verdicts inputs :=
    have hverdicts := hasVerdict_checks options.settings inputs
    ⟨_, hverdicts, shownLines_of_verdicts options hverdicts,
      tally_of_verdicts options.settings hverdicts⟩
  printed := renderAll_report options
  summary colored inputs verdicts hlt hverdicts := by
    obtain ⟨hclasses, hunreadable⟩ := counts_lt options.settings hverdicts hlt
    rw [tally_of_verdicts options.settings hverdicts, Tally.renderAll_spans hclasses hunreadable]
  exit_of_fails inputs hlt hfails := by
    rw [← unreadable_pos_iff options.settings hlt] at hfails
    exact if_pos hfails
  exit_of_finds inputs hlt hfails hfinds := by
    rw [← unreadable_pos_iff options.settings hlt] at hfails
    rw [← findings_pos_iff] at hfinds
    exact (if_neg hfails).trans (if_pos hfinds)
  exit_of_clean inputs hlt hfails hfinds := by
    rw [← unreadable_pos_iff options.settings hlt] at hfails
    rw [← findings_pos_iff] at hfinds
    exact (if_neg hfails).trans (if_neg hfinds)
  failure before input after e h := by
    refine ⟨?_, tally_failure options.settings h before after⟩
    rw [shownLines_append, shownLines_cons, Input.check_of_hasVerdict h]
    rfl
  lines_append := shownLines_append options
  findings_append xs ys := congrArg Tally.findings (tally_append options.settings xs ys)
  classes_append xs ys := congrArg Tally.classes (tally_append options.settings xs ys)
  unreadable_append xs ys := congrArg Tally.unreadable (tally_append options.settings xs ys)
  exit_append xs ys hlt := exitCode_append options.settings hlt
  perm xs ys h := by
    have hcounts := tally_perm options.settings h
    exact ⟨congrArg Tally.exitCode hcounts, congrArg Tally.spans hcounts⟩
  quiet colored inputs := by
    refine ⟨renderAll_report _ colored inputs, ?_, rfl⟩
    rw [← shownLines_quiet]
    exact renderAll_report _ colored inputs

def brokenConstants : List Constant :=
  [.utf8 "A", .classInfo 1, .utf8 "<init>", .utf8 "()V", .utf8 "Code", .utf8 "LA;",
    .nameAndType 1 6, .fieldRef 2 7]

/-- The bytes of a class with two constructors.  The first one stores `this`, and the code of the
second one is a byte that is no opcode. -/
def brokenBytes : List UInt8 :=
  let constructor (code : List UInt8) : Method :=
    ⟨.ofBits .ofMethod 1, 3, 4, [⟨5, Code.write ⟨1, 1, code, [], []⟩⟩]⟩
  ClassFile.write
    { version := .java8, pool := .ofConstants brokenConstants, access := .ofBits .ofClass 0,
      thisClass := 2, superClass := 0, interfaces := [], fields := [],
      methods := [constructor [0x2a, 0xb3, 0, 8, 0xb1], constructor [0xcb]], attributes := [] }

/-- The store is found, but the file fails and the store is neither reported nor counted. -/
theorem report_aggregates_brokenBytes :
    (checkBytes {} brokenBytes).findings = [⟨⟨"A", by decide⟩, .store 1 "A.A"⟩] ∧
      HasVerdict {} ⟨"A.class", .ok brokenBytes⟩ (.error (.code (.unknownOpcode 0xcb 0))) ∧
      (∀ before after, shownLines {} (before ++ ⟨"A.class", .ok brokenBytes⟩ :: after) =
        shownLines {} before ++ .unreadable "A.class" (.code (.unknownOpcode 0xcb 0)) ::
          shownLines {} after) ∧
      Span.renderAll false (report {} [⟨"A.class", .ok brokenBytes⟩]).output =
        "ERROR A.class: ClassFormat(UnknownOpcode \x7b opcode: 203, offset: 0 \x7d)\n" ++
          "0 finding(s) in 0 class(es), 1 unreadable\n" ∧
      (report {} [⟨"A.class", .ok brokenBytes⟩]).exitCode = 2 := by
  have hcheck : Input.check {} ⟨"A.class", .ok brokenBytes⟩ =
      .error (.code (.unknownOpcode 0xcb 0)) := by
    decide +kernel
  have hverdict := hasVerdict_iff.2 hcheck
  have hlines := fun before after =>
    ((report_aggregates {}).failure before _ after _ hverdict).1
  have hline : shownLines {} [⟨"A.class", .ok brokenBytes⟩] =
      [.unreadable "A.class" (.code (.unknownOpcode 0xcb 0))] :=
    hlines [] []
  have hsummary := (report_aggregates {}).summary false _ _ (by decide) (.cons hverdict .nil)
  refine ⟨by decide +kernel, hverdict, hlines, ?_, ?_⟩
  · rw [(report_aggregates {}).printed, hsummary, hline]
    rfl
  · exact (report_aggregates {}).exit_of_fails _ (by decide)
      ⟨_, List.mem_singleton_self _, _, hverdict⟩

end CtorLeak.Cli
