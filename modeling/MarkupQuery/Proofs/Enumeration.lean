import Mathlib.Data.List.Forall2
import MarkupQuery.Cases.Toml
import MarkupQuery.Proofs.Outcome
import MarkupQuery.Proofs.SuiteText

/-! The order in which a folder lists its files, and the order in which the entries of a file come, do
not matter for the suite. Files differ in their paths and the entries of a file in their names, so that
to sort them leaves one order only; and nothing is made of a file before it has its place. Whatever the
parser of files is, the suite has a module for each file and in it a function for each entry. -/

namespace MarkupQuery

open Writer Writing

/-! Sorting by a key that no two members share. -/

def inOrder {α : Type} (key : α → String) (xs : List α) : List α :=
  xs.mergeSort fun a b => decide (key a ≤ key b)

section
variable {α β : Type} {key : α → String} {xs ys : List α}

theorem inOrder_perm (key : α → String) (xs : List α) : (inOrder key xs).Perm xs :=
  List.mergeSort_perm xs _

theorem pairwise_inOrder (h : (xs.map key).Nodup) :
    (inOrder key xs).Pairwise fun a b => key a < key b := by
  have htrans (a b c : α) (hab : decide (key a ≤ key b)) (hbc : decide (key b ≤ key c)) :
      decide (key a ≤ key c) :=
    decide_eq_true (String.le_trans (of_decide_eq_true hab) (of_decide_eq_true hbc))
  have htotal (a b : α) : decide (key a ≤ key b) || decide (key b ≤ key a) := by
    simpa using String.le_total (key a) (key b)
  have hsorted : (inOrder key xs).Pairwise fun a b => decide (key a ≤ key b) :=
    List.pairwise_mergeSort htrans htotal xs
  have hdistinct : (inOrder key xs).Pairwise fun a b => key a ≠ key b :=
    List.pairwise_map.mp (((inOrder_perm key xs).map key).nodup_iff.mpr h)
  exact (hsorted.and hdistinct).imp fun hab => Std.lt_of_le_of_ne (of_decide_eq_true hab.1) hab.2

theorem inOrder_eq_of_perm (h : (xs.map key).Nodup) (hperm : xs.Perm ys) :
    inOrder key xs = inOrder key ys := by
  have hys : (ys.map key).Nodup := (hperm.map key).nodup_iff.mp h
  have hsorted : (inOrder key xs).Perm (inOrder key ys) :=
    (inOrder_perm key xs).trans (hperm.trans (inOrder_perm key ys).symm)
  refine hsorted.eq_of_pairwise ?_ (pairwise_inOrder h) (pairwise_inOrder hys)
  intro a b _ _ hab hba
  exact absurd (String.lt_trans hab hba) (String.lt_irrefl _)

theorem map_inOrder (key' : β → String) (f : α → β) (h : ∀ a, key' (f a) = key a) (xs : List α) :
    (inOrder key xs).map f = inOrder key' (xs.map f) :=
  List.map_mergeSort fun a _ b _ => by rw [h, h]

end

namespace Suite

/-- What a text is parsed as, and what another run parses it as: it is refused for one reason, or a file
with its entries in any order. -/
inductive SameFile : Except String CaseFile → Except String CaseFile → Prop
  | error (reason : String) : SameFile (.error reason) (.error reason)
  | ok {f f' : CaseFile} (tree : f'.tree = f.tree) (expect : f'.expect.Perm f.expect) :
      SameFile (.ok f) (.ok f')

theorem SameFile.refl : ∀ r : Except String CaseFile, SameFile r r
  | .error reason => .error reason
  | .ok f => .ok rfl (.refl f.expect)

variable {parse parse' : CaseFile.Parser} {path : String} {e : Entry}

/-- What a run comes by at a path: a fault, or the file that the text there is, with its entries in any
order. -/
inductive Entry.Yields (parse : CaseFile.Parser) (path : String) :
    Entry → Except SuiteError CaseFile → Prop
  | folder : Yields parse path .folder (.error (.notAFile path))
  | unreadable (reason : String) :
      Yields parse path (.unreadable reason) (.error (.unreadable path reason))
  | notText {content : ByteArray} (h : String.fromUTF8? content = none) :
      Yields parse path (.file content) (.error (.notText path))
  | malformed {content : ByteArray} {text reason : String}
      (htext : String.fromUTF8? content = some text) (h : parse text = .error reason) :
      Yields parse path (.file content) (.error (.malformed path reason))
  | file {content : ByteArray} {text : String} {f f' : CaseFile}
      (htext : String.fromUTF8? content = some text) (h : parse text = .ok f)
      (tree : f'.tree = f.tree) (expect : f'.expect.Perm f.expect) :
      Yields parse path (.file content) (.ok f')

/-- Files as a run may come by them. The folder lists its entries in any order. -/
def Listed (parse : CaseFile.Parser) (entries : List (String × Entry))
    (files : List (String × Except SuiteError CaseFile)) : Prop :=
  ∃ listing, listing.Perm entries ∧
    List.Forall₂ (fun e f => f.1 = e.1 ∧ e.2.Yields parse (folder ++ e.1) f.2) listing files

theorem Entry.yields_of_sameFile (h : ∀ text, SameFile (parse text) (parse' text)) (path : String)
    (e : Entry) : e.Yields parse path (e.read parse' path) := by
  cases e with
  | folder => exact .folder
  | unreadable reason => exact .unreadable reason
  | file content =>
    rw [Entry.read]
    split
    · rename_i htext
      exact .notText htext
    · rename_i text htext
      have hsame := h text
      generalize hparse : parse text = r, parse' text = r' at hsame ⊢
      cases hsame with
      | error reason => exact .malformed htext hparse
      | ok htree hexpect => exact .file htext hparse htree hexpect

theorem Entry.yields_read (parse : CaseFile.Parser) (path : String) (e : Entry) :
    e.Yields parse path (e.read parse path) :=
  e.yields_of_sameFile (fun text => .refl (parse text)) path

/-- Faults are read as they are, and files up to the order of their entries. -/
theorem Entry.Yields.cases {r : Except SuiteError CaseFile} (h : e.Yields parse path r) :
    (∃ fault, r = .error fault ∧ e.read parse path = .error fault) ∨
      ∃ f f', r = .ok f' ∧ e.read parse path = .ok f ∧ f'.tree = f.tree ∧ f'.expect.Perm f.expect := by
  cases h with
  | folder => exact .inl ⟨_, rfl, rfl⟩
  | unreadable reason => exact .inl ⟨_, rfl, rfl⟩
  | notText htext => exact .inl ⟨_, rfl, by simp only [Entry.read, htext]⟩
  | malformed htext hparse => exact .inl ⟨_, rfl, by simp only [Entry.read, htext, hparse]⟩
  | @file _ _ f f' htext hparse htree hexpect =>
    exact .inr ⟨f, f', rfl, by simp only [Entry.read, htext, hparse], htree, hexpect⟩

theorem Entry.yields_error_iff {fault : SuiteError} :
    e.Yields parse path (.error fault) ↔ e.read parse path = .error fault := by
  constructor
  · intro h
    obtain ⟨_, ⟨⟩, hread⟩ | ⟨_, _, ⟨⟩, -⟩ := h.cases
    exact hread
  · intro h
    exact h ▸ e.yields_read parse path

theorem Entry.exists_yields_ok_iff :
    (∃ f, e.Yields parse path (.ok f)) ↔ ∃ f, e.read parse path = .ok f := by
  constructor
  · rintro ⟨_, h⟩
    obtain ⟨_, ⟨⟩, -⟩ | ⟨f, _, ⟨⟩, hread, -⟩ := h.cases
    exact ⟨f, hread⟩
  · rintro ⟨f, h⟩
    exact ⟨f, h ▸ e.yields_read parse path⟩

/-- What becomes of a file. -/
def output (file : String × Except SuiteError CaseFile) :
    String × Except SuiteError (List Writing) :=
  (file.1, file.2.map fun f => f.writing (identifier (stem file.1)))

theorem ofFiles_eq_mapM (files : List (String × Except SuiteError CaseFile)) :
    ofFiles files =
      ((inOrder Prod.fst files).mapM fun f => (output f).2).map fun modules =>
        result modules.flatten := by
  have hmodule (f : String × Except SuiteError CaseFile) :
      (do return (← f.2).writing (identifier (stem f.1))) = (output f).2 := by
    obtain ⟨name, e | f⟩ := f <;> rfl
  show ((inOrder Prod.fst files).mapM fun f => do return (← f.2).writing (identifier (stem f.1)))
    >>= _ = _
  simp only [hmodule]
  rfl

/-- It is the same to look at the files in order and to put in order what becomes of them. -/
theorem ofFiles_eq_output (files : List (String × Except SuiteError CaseFile)) :
    ofFiles files =
      ((inOrder Prod.fst (files.map output)).mapM Prod.snd).map fun modules =>
        result modules.flatten := by
  have hsorted : (inOrder Prod.fst files).map output = inOrder Prod.fst (files.map output) :=
    map_inOrder Prod.fst output (fun _ => rfl) files
  rw [ofFiles_eq_mapM, ← hsorted, List.mapM_map]
  rfl

theorem byName_eq_of_perm {f f' : CaseFile} (h : f'.expect.Perm f.expect) : f'.byName = f.byName :=
  inOrder_eq_of_perm f'.nodup_names (h.map TestCase.ofEntry)

/-- The order of the entries is lost when the cases are sorted. -/
theorem output_eq_of_yields {name : String} {r : Except SuiteError CaseFile}
    (h : e.Yields parse (folder ++ name) r) :
    output (name, r) = output (name, e.read parse (folder ++ name)) := by
  obtain ⟨fault, rfl, hread⟩ | ⟨f, f', rfl, hread, htree, hexpect⟩ := h.cases
  · rw [hread]
  · have hwriting (moduleName : String) : f'.writing moduleName = f.writing moduleName := by
      rw [CaseFile.writing, CaseFile.writing, htree, byName_eq_of_perm hexpect]
    simp only [hread, output, Except.map, hwriting]

/-- The entries of a folder with what they read as. -/
def readAll (parse : CaseFile.Parser) (entries : List (String × Entry)) :
    List (String × Except SuiteError CaseFile) :=
  entries.map fun e => (e.1, e.2.read parse (folder ++ e.1))

section
variable {entries : List (String × Entry)}
  {files files' : List (String × Except SuiteError CaseFile)}

theorem Listed.perm_map_output (h : Listed parse entries files) :
    (files.map output).Perm ((readAll parse entries).map output) := by
  obtain ⟨listing, hlisting, hfiles⟩ := h
  have heq : files.map output = (readAll parse listing).map output := by
    clear hlisting
    induction hfiles with
    | nil => rfl
    | @cons e f _ _ hfile _ ih =>
      obtain ⟨name, r⟩ := f
      obtain ⟨rfl, hyields⟩ := hfile
      exact List.cons_eq_cons.mpr ⟨output_eq_of_yields hyields, ih⟩
  rw [heq]
  exact (hlisting.map _).map output

theorem listed_readAll (hparse : ∀ text, SameFile (parse text) (parse' text))
    {listing : List (String × Entry)} (h : listing.Perm entries) :
    Listed parse entries (readAll parse' listing) := by
  refine ⟨listing, h, ?_⟩
  rw [readAll, List.forall₂_map_right_iff, List.forall₂_same]
  exact fun e _ => ⟨rfl, e.2.yields_of_sameFile hparse _⟩

theorem ofFiles_eq_of_listed (hentries : (entries.map Prod.fst).Nodup)
    (h : Listed parse entries files) (h' : Listed parse entries files') :
    ofFiles files = ofFiles files' := by
  have hperm := h.perm_map_output
  have hnodup : ((files.map output).map Prod.fst).Nodup := by
    rw [(hperm.map Prod.fst).nodup_iff]
    simpa [readAll, output, Function.comp_def] using hentries
  rw [ofFiles_eq_output, ofFiles_eq_output,
    inOrder_eq_of_perm hnodup (hperm.trans h'.perm_map_output.symm)]

theorem snd_output_eq_error_iff {file : String × Except SuiteError CaseFile} {e : SuiteError} :
    (output file).2 = .error e ↔ file.2 = .error e := Outcome.map_eq_error_iff

theorem exists_snd_output_iff {file : String × Except SuiteError CaseFile} :
    (∃ m, (output file).2 = .ok m) ↔ ∃ f, file.2 = .ok f := by
  simp [output, Outcome.map_eq_ok_iff]

/-- The first fault by path ends the run. -/
theorem ofFiles_eq_error_iff (hfiles : (files.map Prod.fst).Nodup) {fault : SuiteError} :
    ofFiles files = .error fault ↔
      ∃ f ∈ files, f.2 = .error fault ∧ ∀ f' ∈ files, f'.1 < f.1 → ∃ c, f'.2 = .ok c := by
  have hmem {f : String × Except SuiteError CaseFile} : f ∈ inOrder Prod.fst files ↔ f ∈ files :=
    (inOrder_perm Prod.fst files).mem_iff
  have hsorted := pairwise_inOrder hfiles
  rw [ofFiles_eq_mapM, Outcome.map_eq_error_iff, Outcome.mapM_eq_error_iff]
  constructor
  · rintro ⟨before, f, after, hsplit, hbefore, hfault⟩
    rw [hsplit, List.pairwise_append, List.pairwise_cons] at hsorted
    refine ⟨f, hmem.mp (by simp [hsplit]), snd_output_eq_error_iff.mp hfault, fun f' hf' hlt => ?_⟩
    have hcases : f' ∈ before ∨ f' ∈ f :: after := List.mem_append.mp (hsplit ▸ hmem.mpr hf')
    rcases hcases with hf' | hf'
    · exact exists_snd_output_iff.mp (hbefore f' hf')
    · rcases List.mem_cons.mp hf' with rfl | hf'
      · exact absurd hlt (String.lt_irrefl _)
      · exact absurd (String.lt_trans hlt (hsorted.2.1.1 f' hf')) (String.lt_irrefl _)
  · rintro ⟨f, hf, hfault, hsmaller⟩
    obtain ⟨before, after, hsplit⟩ := List.append_of_mem (hmem.mpr hf)
    rw [hsplit, List.pairwise_append] at hsorted
    refine ⟨before, f, after, hsplit, fun f' hf' => ?_, snd_output_eq_error_iff.mpr hfault⟩
    have hlt : f'.1 < f.1 := hsorted.2.2 f' hf' f List.mem_cons_self
    exact exists_snd_output_iff.mpr (hsmaller f' (hmem.mp (by simp [hsplit, hf'])) hlt)

theorem forall_ok_of_ofFiles {text : String} (h : ofFiles files = .ok text) :
    ∀ f ∈ files, ∃ c, f.2 = .ok c := by
  intro f hf
  rcases hread : f.2 with fault | c
  · have hmem : f ∈ inOrder Prod.fst files := (inOrder_perm Prod.fst files).mem_iff.mpr hf
    have hfault : ∃ e, (inOrder Prod.fst files).mapM (fun f => (output f).2) = .error e :=
      Outcome.exists_mapM_eq_error_iff.mpr ⟨f, hmem, fault, snd_output_eq_error_iff.mpr hread⟩
    obtain ⟨e, he⟩ := hfault
    rw [ofFiles_eq_mapM, he] at h
    cases h
  · exact ⟨c, rfl⟩

end

theorem result_flatten (modules : List (List Writing)) :
    result modules.flatten = String.join (modules.map result) := by
  apply String.toList_injective
  induction modules with
  | nil => rfl
  | cons m ms ih =>
    rw [List.flatten_cons, toList_result, partsAll_append, shown_append, ← toList_result,
      ← toList_result, ih, List.map_cons, String.join_cons, String.toList_append]

theorem inOrder_map_ok (modules : List (String × CaseFile)) :
    inOrder Prod.fst (modules.map fun m => (m.1, (.ok m.2 : Except SuiteError CaseFile))) =
      (inOrder Prod.fst modules).map fun m => (m.1, .ok m.2) :=
  (map_inOrder Prod.fst _ (fun _ => rfl) modules).symm

theorem ofFiles_ok (modules : List (String × CaseFile)) :
    ofFiles (modules.map fun m => (m.1, .ok m.2)) =
      .ok (String.join ((inOrder Prod.fst modules).map fun m =>
        m.2.moduleText m.1 (m.2.byName.map TestCase.functionText))) := by
  have houtput : (inOrder Prod.fst modules).mapM (fun m => (output (m.1, .ok m.2)).2) =
      .ok ((inOrder Prod.fst modules).map fun m => m.2.writing (identifier (stem m.1))) :=
    Outcome.mapM_of_forall_ok fun _ _ => rfl
  rw [ofFiles_eq_mapM, inOrder_map_ok, List.mapM_map, Function.comp_def, houtput, Outcome.map_ok,
    result_flatten, List.map_map]
  simp only [Function.comp_def, result_writing]

theorem exists_modules {files : List (String × Except SuiteError CaseFile)}
    (h : ∀ f ∈ files, ∃ c, f.2 = .ok c) :
    ∃ modules : List (String × CaseFile), files = modules.map fun m => (m.1, .ok m.2) := by
  induction files with
  | nil => exact ⟨[], rfl⟩
  | cons f fs ih =>
    obtain ⟨⟨c, hc⟩, hfs⟩ := List.forall_mem_cons.mp h
    obtain ⟨modules, rfl⟩ := ih hfs
    exact ⟨(f.1, c) :: modules, by rw [List.map_cons, ← hc]⟩

theorem folder_append_lt {a b : String} (h : a < b) : folder ++ a < folder ++ b := by
  have hlist : folder.toList ++ a.toList < folder.toList ++ b.toList := List.append_left_lt h
  rwa [← String.toList_append, ← String.toList_append] at hlist

/-- By path is by name. -/
theorem folder_append_lt_iff {a b : String} : folder ++ a < folder ++ b ↔ a < b := by
  refine ⟨fun h => String.not_le.mp fun hle => ?_, folder_append_lt⟩
  by_cases heq : b = a
  · exact absurd (heq ▸ h) (String.lt_irrefl _)
  · exact String.lt_irrefl _ (String.lt_trans h (folder_append_lt (Std.lt_of_le_of_ne hle heq)))

/-- Modules and entries in order belong to each other. -/
theorem forall₂_inOrder {entries : List (String × Entry)} {modules : List (String × CaseFile)}
    (h : readAll parse entries = modules.map fun m => (m.1, .ok m.2)) :
    List.Forall₂ (fun e m => m.1 = e.1 ∧ e.2.Yields parse (folder ++ e.1) (.ok m.2))
      (inOrder Prod.fst entries) (inOrder Prod.fst modules) := by
  have hread : readAll parse (inOrder Prod.fst entries) = inOrder Prod.fst (readAll parse entries) :=
    map_inOrder Prod.fst _ (fun _ => rfl) entries
  have hpairs : List.Forall₂ Eq (readAll parse (inOrder Prod.fst entries))
      ((inOrder Prod.fst modules).map fun m => (m.1, Except.ok m.2)) := by
    rw [List.forall₂_eq_eq_eq, hread, h, inOrder_map_ok]
  rw [readAll, List.forall₂_map_left_iff, List.forall₂_map_right_iff] at hpairs
  refine hpairs.imp fun e m heq => ?_
  obtain ⟨hname, hfile⟩ := Prod.mk.inj heq
  exact ⟨hname.symm, hfile ▸ e.2.yields_read parse _⟩

/-- Whatever the parser is, the outcome for a folder is one for all orders in which it lists its
entries and in which those of a file come. It is the fault of the entry with the smallest path that is
at fault, or else a text with a module for each entry by path, and in it a function for each entry of
the file by name. -/
theorem outcome_of_folder (parse : CaseFile.Parser) {entries : List (String × Entry)}
    (h : (entries.map fun e => folder ++ e.1).Nodup) :
    ∃ outcome : Except SuiteError String,
      (∀ files, Listed parse entries files → ofFiles files = outcome) ∧
      (∀ parse', (∀ text, SameFile (parse text) (parse' text)) → ∀ listing, listing.Perm entries →
        generate parse' true (some listing) = outcome) ∧
      (∀ fault, outcome = .error fault ↔
        ∃ e ∈ entries, e.2.Yields parse (folder ++ e.1) (.error fault) ∧
          ∀ e' ∈ entries, folder ++ e'.1 < folder ++ e.1 →
            ∃ f, e'.2.Yields parse (folder ++ e'.1) (.ok f)) ∧
      ∀ text, outcome = .ok text →
        ∃ (listing : List (String × Entry)) (modules : List (String × CaseFile)),
          listing.Perm entries ∧
          (listing.Pairwise fun e e' => folder ++ e.1 < folder ++ e'.1) ∧
          List.Forall₂ (fun e m => m.1 = e.1 ∧ e.2.Yields parse (folder ++ e.1) (.ok m.2))
            listing modules ∧
          (∀ m ∈ modules,
            (m.2.byName.Perm (m.2.expect.map fun x =>
              { name := x.1
                selector := x.2.selector
                output := x.2.output.getD "[]"
                error := x.2.error.getD ""
                filterSemantics := x.2.filterSemantics.getD "legacy"
                notComparison := x.2.notComparison.getD "identity"
                isIgnored := x.2.ignore.isSome })) ∧
            m.2.byName.Pairwise fun c c' => c.name < c'.name) ∧
          text = String.join (modules.map fun m =>
            m.2.moduleText m.1 (m.2.byName.map TestCase.functionText)) := by
  have hnames : (entries.map Prod.fst).Nodup := by
    rw [List.Nodup, List.pairwise_map] at h ⊢
    exact h.imp fun hpath hname => hpath (congrArg (folder ++ ·) hname)
  have hfiles : ((readAll parse entries).map Prod.fst).Nodup := by
    simpa [readAll, Function.comp_def] using hnames
  have hlisted : Listed parse entries (readAll parse entries) :=
    listed_readAll (fun text => .refl (parse text)) (.refl entries)
  refine ⟨ofFiles (readAll parse entries), ?_, ?_, ?_, ?_⟩
  · exact fun files hfiles => ofFiles_eq_of_listed hnames hfiles hlisted
  · intro parse' hparse listing hlisting
    exact ofFiles_eq_of_listed hnames (listed_readAll hparse hlisting) hlisted
  · intro fault
    rw [ofFiles_eq_error_iff hfiles]
    simp only [Entry.yields_error_iff, Entry.exists_yields_ok_iff, readAll, List.mem_map,
      exists_exists_and_eq_and, forall_exists_index, and_imp, forall_apply_eq_imp_iff₂,
      folder_append_lt_iff]
  · intro text htext
    obtain ⟨modules, hmodules⟩ := exists_modules (forall_ok_of_ofFiles htext)
    rw [hmodules, ofFiles_ok] at htext
    cases htext
    exact ⟨inOrder Prod.fst entries, inOrder Prod.fst modules, inOrder_perm _ _,
      (pairwise_inOrder hnames).imp folder_append_lt, forall₂_inOrder hmodules,
      fun m _ => ⟨m.2.perm_byName, pairwise_inOrder m.2.nodup_names⟩, rfl⟩

/-! Two files in TOML. -/

section
variable {text : String} {f : CaseFile} (h : parse text = .ok f)

include h

theorem Entry.read_file (path : String) : (Entry.file text.toUTF8).read parse path = .ok f := by
  have htext : String.fromUTF8? text.toUTF8 = some text := dif_pos text.isValidUTF8
  simp only [Entry.read, htext, h]

/-- The module of a file does not show the order of its entries. -/
theorem Entry.Yields.moduleText_eq {f' : CaseFile}
    (hyields : (Entry.file text.toUTF8).Yields parse path (.ok f')) (name : String) :
    f'.moduleText name (f'.byName.map TestCase.functionText) =
      f.moduleText name (f.byName.map TestCase.functionText) := by
  obtain ⟨_, ⟨⟩, -⟩ | ⟨_, _, ⟨⟩, hread, htree, hexpect⟩ := hyields.cases
  cases hread.symm.trans (Entry.read_file h path)
  rw [byName_eq_of_perm hexpect, CaseFile.moduleText, CaseFile.moduleText, CaseFile.trimmedTree,
    CaseFile.trimmedTree, htree]

end

/-- The file with its entries in the opposite order. -/
def reversed (f : CaseFile) : CaseFile where
  tree := f.tree
  expect := f.expect.reverse
  distinct := (f.expect.reverse_perm.map Prod.fst).nodup_iff.mpr f.distinct

theorem sameFile_reversed : ∀ r : Except String CaseFile, SameFile r (r.map reversed)
  | .error reason => .error reason
  | .ok f => .ok rfl f.expect.reverse_perm

def noCases : CaseFile := ⟨"[]", [], by decide⟩

def twoCases : CaseFile := ⟨"[]", [("x", { selector := "a" }), ("y", { selector := "p" })], by decide⟩

/-- A file without cases and one with two, listed in either order, and the entries in either order. -/
theorem outcome_of_two_files :
    let a := ("a.toml", Entry.file "given.tree = '[]'\nexpect = \x7b\x7d".toUTF8)
    let b := ("b.toml", Entry.file
      "given.tree = '[]'\n[expect]\ny.selector = 'p'\nx.selector = 'a'".toUTF8)
    let text := noCases.moduleText "a.toml" [] ++
      twoCases.moduleText "b.toml" (twoCases.cases.map TestCase.functionText)
    ([b, a].map fun e => folder ++ e.1).Nodup ∧
      generate CaseFile.ofToml true (some [b, a]) = .ok text ∧
      generate (fun given => (CaseFile.ofToml given).map reversed) true (some [a, b]) = .ok text ∧
      ∀ files, Listed CaseFile.ofToml [b, a] files → ofFiles files = .ok text := by
  intro a b text
  have hnodup : ([b, a].map fun e => folder ++ e.1).Nodup := by decide
  have ha : CaseFile.ofToml "given.tree = '[]'\nexpect = \x7b\x7d" = .ok noCases := by
    with_unfolding_all rfl
  have hb : CaseFile.ofToml "given.tree = '[]'\n[expect]\ny.selector = 'p'\nx.selector = 'a'" =
      .ok twoCases := by with_unfolding_all rfl
  obtain ⟨outcome, hlisted, hgenerate, hfault, hmodules⟩ := outcome_of_folder CaseFile.ofToml hnodup
  have houtcome : outcome = .ok text := by
    cases outcome with
    | error fault =>
      obtain ⟨e, he, hyields, -⟩ := (hfault fault).mp rfl
      have hread := Entry.yields_error_iff.mp hyields
      simp only [List.mem_cons, List.not_mem_nil, or_false] at he
      rcases he with rfl | rfl
      · cases hread.symm.trans (Entry.read_file hb _)
      · cases hread.symm.trans (Entry.read_file ha _)
    | ok found =>
      obtain ⟨listing, modules, hperm, hsorted, hpairs, -, rfl⟩ := hmodules found rfl
      have hab : [a, b].Pairwise fun e e' => folder ++ e.1 < folder ++ e'.1 := by decide
      obtain rfl : listing = [a, b] := by
        refine (hperm.trans (.swap a b [])).eq_of_pairwise ?_ hsorted hab
        intro e e' _ _ hlt hgt
        exact absurd (String.lt_trans hlt hgt) (String.lt_irrefl _)
      obtain ⟨⟨_, fa⟩, _, ⟨rfl, hfa⟩, hrest, rfl⟩ := List.forall₂_cons_left_iff.mp hpairs
      obtain ⟨⟨_, fb⟩, _, ⟨rfl, hfb⟩, hnil, rfl⟩ := List.forall₂_cons_left_iff.mp hrest
      cases hnil
      have hnone : noCases.byName = [] := List.mergeSort_nil
      have htwo : twoCases.byName = twoCases.cases := List.mergeSort_of_pairwise (by decide)
      simp only [List.map_cons, List.map_nil, hfa.moduleText_eq ha, hfb.moduleText_eq hb, hnone, htwo,
        String.join_cons, String.join_nil, String.append_empty]
      rfl
  subst houtcome
  exact ⟨hnodup, hgenerate _ (fun _ => .refl _) _ (.refl _),
    hgenerate _ (fun _ => sameFile_reversed _) _ (.swap b a []), hlisted⟩

end Suite

end MarkupQuery
