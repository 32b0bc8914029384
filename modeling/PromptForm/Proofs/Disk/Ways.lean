import PromptForm.Disk.Basic
import PromptForm.Proofs.Text.Pieces

/-! # Ways through folders

A way is gone from folder to folder, and empty names and points on it do not matter (`Disk.foldlM_enter_filter`). What
is made with a folder is its whole way (`Disk.makeBackwards_ok`), and a way stays open as long as no folder is lost
(`Disk.foldlM_enter_mono`). A path to a file goes the way of the folder that holds it (`Disk.Path.filter_way`). -/

namespace PromptForm.Disk
variable {d d' : Disk} {p q : Place} {names : List String} {name : String}

/-- A name that leads somewhere. -/
def isName (name : String) : Bool := name != "" && name != "."

theorem step_of_not_isName (h : isName name = false) (p : Place) : Path.step p name = p := by
  simp only [isName, Bool.and_eq_false_iff, bne_eq_false_iff_eq] at h
  rw [Path.step, if_pos h]

/-! ### Steps -/

theorem isFolder_start (d : Disk) (path : Path) : d.isFolder path.start = true := by
  unfold Path.start isFolder
  split <;> rfl

theorem enter_ok : d.enter p name = .ok q ↔ d.isFolder q = true ∧ Path.step p name = q := by
  unfold enter
  dsimp only
  constructor
  · intro h
    split at h
    · next hfolder =>
      cases h
      exact ⟨hfolder, rfl⟩
    · split at h <;> cases h
  · rintro ⟨hfolder, rfl⟩
    rw [if_pos hfolder]

/-- Names that lead nowhere new do not matter. -/
theorem foldlM_enter_filter (names : List String) (hp : d.isFolder p = true) :
    names.foldlM d.enter p = (names.filter isName).foldlM d.enter p := by
  induction names generalizing p with
  | nil => rfl
  | cons name names ih =>
    cases hname : isName name with
    | false =>
      have hstay : d.enter p name = .ok p := enter_ok.mpr ⟨hp, step_of_not_isName hname p⟩
      rw [List.filter_cons_of_neg (by simp [hname]), List.foldlM_cons, hstay, ← ih hp]
      rfl
    | true =>
      rw [List.filter_cons_of_pos hname, List.foldlM_cons, List.foldlM_cons]
      cases henter : d.enter p name with
      | error fault => rfl
      | ok q => exact ih (enter_ok.mp henter).1

/-- A way stays open as long as no folder is lost. -/
theorem foldlM_enter_mono (hmono : ∀ p, d.isFolder p = true → d'.isFolder p = true)
    (h : names.foldlM d.enter p = .ok q) : names.foldlM d'.enter p = .ok q := by
  induction names generalizing p with
  | nil => exact h
  | cons name names ih =>
    rw [List.foldlM_cons] at h ⊢
    cases henter : d.enter p name with
    | error fault =>
      rw [henter] at h
      cases h
    | ok r =>
      obtain ⟨hfolder, hstep⟩ := enter_ok.mp henter
      rw [henter] at h
      rw [enter_ok.mpr ⟨hmono r hfolder, hstep⟩]
      exact ih h

/-! ### Folders that are made -/

/-- Nothing but folders comes to a disk. -/
structure Grows (d d' : Disk) : Prop where
  files : d'.files = d.files
  folders : ∀ p, d.isFolder p = true → d'.isFolder p = true

theorem Grows.refl (d : Disk) : Grows d d := ⟨rfl, fun _ h => h⟩

theorem Grows.trans {d'' : Disk} (h : Grows d d') (h' : Grows d' d'') : Grows d d'' :=
  ⟨h'.files.trans h.files, fun p hp => h'.folders p (h.folders p hp)⟩

theorem grows_cons (d : Disk) (p : Place) : Grows d { d with folders := p :: d.folders } := by
  refine ⟨rfl, fun q hq => ?_⟩
  simp only [isFolder, List.any_cons, Bool.or_eq_true] at hq ⊢
  tauto

theorem isFolder_cons (d : Disk) (p : Place) : isFolder { d with folders := p :: d.folders } p = true := by
  simp [isFolder]

theorem makeFolder_ok {start : Place} {way : List String} (h : d.makeFolder start way name = .ok d') :
    Grows d d' ∧ ∃ p, (way ++ [name]).foldlM d'.enter start = .ok p := by
  unfold makeFolder at h
  cases hway : way.foldlM d.enter start with
  | error fault =>
    rw [hway] at h
    cases h
  | ok p =>
    rw [hway] at h
    -- Either the folder was there and the disk is as before, or it is added unless a file has its name.
    have hmade : Grows d d' ∧ d'.isFolder (Path.step p name) = true := by
      change (if d.isFolder (Path.step p name) then Except.ok d
        else if (d.text? (Path.step p name)).isSome then Except.error DiskFault.occupied
        else .ok { d with folders := Path.step p name :: d.folders }) = _ at h
      split at h
      · next hfolder =>
        cases h
        exact ⟨Grows.refl d, hfolder⟩
      · split at h
        · cases h
        · cases h
          exact ⟨grows_cons d _, isFolder_cons d _⟩
    refine ⟨hmade.1, Path.step p name, ?_⟩
    rw [List.foldlM_append, foldlM_enter_mono hmade.1.folders hway]
    change [name].foldlM d'.enter p = _
    rw [List.foldlM_cons, enter_ok.mpr ⟨hmade.2, rfl⟩]
    rfl

/-- Whatever names lead to a folder that is made, the whole way is open then. -/
theorem makeBackwards_ok {start : Place} {backwards : List String} (h : d.makeBackwards start backwards = .ok d') :
    Grows d d' ∧ ∃ p, backwards.reverse.foldlM d'.enter start = .ok p := by
  induction backwards generalizing d' with
  | nil =>
    cases h
    exact ⟨Grows.refl d, start, rfl⟩
  | cons name way ih =>
    rw [List.reverse_cons]
    unfold makeBackwards at h
    split at h
    · cases hway : d.makeBackwards start way with
      | error fault =>
        rw [hway] at h
        cases h
      | ok d₁ =>
        rw [hway] at h
        obtain ⟨hgrows, hopen⟩ := makeFolder_ok h
        exact ⟨(ih hway).1.trans hgrows, hopen⟩
    · exact makeFolder_ok h

/-! ### Names of paths -/

namespace Path
variable {path : Path} {start : Place} {way : List String} {cs front word : List Char}

/-- The names between the slashes of a text. -/
def namesOf (cs : List Char) : List String := (Text.splitBy (· == '/') cs).map String.ofList

theorem namesOf_slash (cs ds : List Char) : namesOf (cs ++ '/' :: ds) = namesOf cs ++ namesOf ds := by
  rw [namesOf, Text.splitBy_append (by rfl), List.map_append]
  rfl

theorem namesOf_word (h : '/' ∉ cs) : namesOf cs = [String.ofList cs] := by
  have hsplit : Text.splitBy (· == '/') cs = [cs] := by
    induction cs with
    | nil => rfl
    | cons c cs ih =>
      obtain ⟨hc, hcs⟩ := not_or.mp (mt List.mem_cons.mpr h)
      simp [Text.splitBy, Ne.symm hc, ih hcs]
  rw [namesOf, hsplit]
  rfl

theorem start_eq (path : Path) : path.start = if path.text.toList.head? = some '/' then ["/"] else [] := by
  rw [start]
  congr 1
  rw [String.startsWith_string_iff]
  cases path.text.toList with
  | nil => simp
  | cons c cs => simp [eq_comm]

/-- Only names that lead nowhere are taken from the end of a text. -/
theorem filter_trimEnd (cs : List Char) :
    (namesOf (trimEnd cs).reverse).filter isName = (namesOf cs.reverse).filter isName := by
  fun_induction trimEnd cs with
  | case1 cs ih =>
    rw [ih, List.reverse_cons, namesOf_slash, List.filter_append]
    exact (List.append_nil _).symm
  | case2 cs ih =>
    rw [ih, List.reverse_cons, List.reverse_cons, List.append_assoc, List.singleton_append, namesOf_slash,
      List.filter_append]
    exact (List.append_nil _).symm
  | case3 cs => rfl

theorem filter_backwards (path : Path) : path.backwards.reverse.filter isName = path.names.filter isName := by
  have hend : (path.names.rtakeWhile (· == "")).filter isName = [] := by
    rw [List.filter_eq_nil_iff]
    intro name hname
    have hempty : (name == "") = true := List.mem_rtakeWhile_imp (p := (· == "")) hname
    rw [beq_iff_eq.mp hempty]
    decide
  have hnames : path.backwards.reverse ++ path.names.rtakeWhile (· == "") = path.names :=
    List.rdropWhile_append_rtakeWhile ..
  rw [← hnames, List.filter_append, hend, List.append_nil]

/-- A path to a file: where it starts, the names on its way, and the name of the file. -/
structure Leads (path : Path) (start : Place) (way : List String) (name : String) : Prop where
  start : path.start = start
  names : path.names = way ++ [name]
  real : name ≠ "" ∧ name ≠ "." ∧ name ≠ ".."

namespace Leads
variable (h : path.Leads start way name)
include h

theorem backwards_eq : path.backwards = name :: way.reverse := by
  rw [backwards, h.names, List.reverse_concat, List.dropWhile_cons_of_neg (by simpa using h.real.1)]

theorem way_eq : path.way = way := by
  rw [Path.way, h.backwards_eq, List.tail_cons, List.reverse_reverse]

theorem place_eq : path.place = way.foldl step start ++ [name] := by
  rw [place, h.names, h.start, List.foldl_append, List.foldl_cons, List.foldl_nil, step,
    if_neg (not_or.mpr ⟨h.real.1, h.real.2.1⟩), if_neg h.real.2.2]

theorem meansFolder_eq : path.meansFolder = false := by
  simp [meansFolder, h.names, h.real]

theorem endsInStep_eq : path.endsInStep = false := by
  simp [endsInStep, h.backwards_eq, h.real]

theorem text_ne : path.text ≠ "" := by
  intro htext
  have hnames : [""] = way ++ [name] := by
    rw [← h.names, Path.names, htext]
    rfl
  have hlast := congrArg List.getLast? hnames
  rw [List.getLast?_concat] at hlast
  exact h.real.1 (Option.some.inj hlast).symm

end Leads

/-! ### Paths to files -/

/-- A text is cut behind the last occurrence of a character, if there is one. -/
theorem cut_last (c : Char) (cs : List Char) :
    cs = (cs.reverse.dropWhile (· != c)).reverse ++ (cs.reverse.takeWhile (· != c)).reverse ∧
      c ∉ (cs.reverse.takeWhile (· != c)).reverse ∧
      (cs.reverse.dropWhile (· != c) = [] ∨ ∃ before, cs.reverse.dropWhile (· != c) = c :: before) := by
  refine ⟨?_, fun hmem => ?_, ?_⟩
  · rw [← List.reverse_append, List.takeWhile_append_dropWhile, List.reverse_reverse]
  · have hne := List.mem_takeWhile_imp (List.mem_reverse.mp hmem)
    simp at hne
  · cases hdrop : cs.reverse.dropWhile (· != c) with
    | nil => exact .inl rfl
    | cons d before =>
      have hhead := List.head?_dropWhile_not (· != c) cs.reverse
      rw [hdrop] at hhead
      have hd : d = c := by simpa using hhead
      exact .inr ⟨before, by rw [hd]⟩

/-- The stem of a file name is a part of it. -/
theorem stemOf_subset (name : List Char) : stemOf name ⊆ name := by
  unfold stemOf
  split
  · exact List.Subset.refl name
  · intro c hc
    have hdropped := List.mem_of_mem_drop (List.mem_reverse.mp hc)
    exact List.mem_reverse.mp ((List.dropWhile_suffix _).mem hdropped)

theorem trimEnd_eq_self (hslash : ∀ rest, cs ≠ '/' :: rest) (hpoint : ∀ rest, cs ≠ '.' :: '/' :: rest) :
    trimEnd cs = cs := by
  unfold trimEnd
  split
  · exact absurd rfl (hslash _)
  · exact absurd rfl (hpoint _)
  · rfl

/-- What stands before the name of a file is empty or ends with a slash, and the name has none. -/
theorem exists_front (hfile : path.meansFolder = false) :
    path.text.toList = path.split.1 ++ path.split.2 ∧ '/' ∉ path.split.2 ∧
      (path.split.1 = [] ∨ ∃ front, path.split.1 = front ++ ['/']) := by
  have hlast : ∀ front name, path.text.toList = front ++ '/' :: name → '/' ∉ name → name ≠ [] ∧ name ≠ ['.'] := by
    intro front name htext hname
    have hnames : path.names.getLast? = some (String.ofList name) := by
      change (namesOf path.text.toList).getLast? = _
      rw [htext, namesOf_slash, namesOf_word hname, List.getLast?_concat]
    rw [meansFolder, hnames] at hfile
    constructor <;> rintro rfl <;> simp at hfile
  have htrim : trimEnd path.text.toList.reverse = path.text.toList.reverse := by
    refine trimEnd_eq_self (fun rest hrest => ?_) fun rest hrest => ?_
    · refine (hlast rest.reverse [] ?_ List.not_mem_nil).1 rfl
      rw [← List.reverse_reverse path.text.toList, hrest, List.reverse_cons]
    · refine (hlast rest.reverse ['.'] ?_ (by decide)).2 rfl
      rw [← List.reverse_reverse path.text.toList, hrest]
      simp
  obtain ⟨hsplit, hword, hdrop⟩ := cut_last '/' path.text.toList
  rw [split, htrim]
  refine ⟨hsplit, hword, hdrop.imp (fun hdrop => ?_) fun ⟨before, hdrop⟩ => ⟨before.reverse, ?_⟩⟩
  · dsimp only
    rw [hdrop, List.reverse_nil]
  · dsimp only
    rw [hdrop, List.reverse_cons]

theorem trimEnd_suffix (cs : List Char) : trimEnd cs <:+ cs := by
  fun_induction trimEnd cs with
  | case1 cs ih => exact ih.trans (List.suffix_cons _ _)
  | case2 cs ih => exact ih.trans ((List.suffix_cons _ _).trans (List.suffix_cons _ _))
  | case3 cs => exact List.suffix_rfl

/-- What is trimmed away as a whole begins, in reverse, with a slash. -/
theorem getLast?_of_trimEnd (h : trimEnd cs = []) (hne : cs ≠ []) : cs.getLast? = some '/' := by
  fun_induction trimEnd cs with
  | case1 cs ih =>
    cases cs with
    | nil => rfl
    | cons c cs => rw [List.getLast?_cons_cons, ih h (List.cons_ne_nil c cs)]
  | case2 cs ih =>
    cases cs with
    | nil => rfl
    | cons c cs => rw [List.getLast?_cons_cons, List.getLast?_cons_cons, ih h (List.cons_ne_nil c cs)]
  | case3 cs => exact absurd h hne

/-- The folder of a file behind a slash begins like the path, and only names that lead nowhere may be missing from it. -/
theorem exists_folder (hfront : path.split.1 = front ++ ['/']) : ∃ folder, path.folder? = some folder ∧
    folder.text.toList.head? = (front ++ ['/']).head? ∧
      folder.names.filter isName = (namesOf front).filter isName := by
  have htrim : trimEnd path.split.1.reverse = trimEnd front.reverse := by
    rw [hfront, List.reverse_concat, trimEnd]
  have hnonempty : path.split.1.isEmpty = false := by simp [hfront]
  have hfilter := filter_trimEnd front.reverse
  rw [List.reverse_reverse] at hfilter
  rw [folder?, htrim]
  simp only [hnonempty, Bool.false_eq_true, if_false]
  rw [List.head?_append, ← List.getLast?_reverse]
  -- If nothing but separators stands before the name, there are no names on the way.
  cases htrimmed : trimEnd front.reverse with
  | nil =>
    rw [htrimmed] at hfilter
    refine ⟨_, rfl, ?_, hfilter ▸ rfl⟩
    by_cases hempty : front.reverse = []
    · rw [hempty]
      rfl
    · rw [getLast?_of_trimEnd htrimmed hempty]
      rfl
  | cons c cs =>
    obtain ⟨dropped, hdropped⟩ := trimEnd_suffix front.reverse
    rw [htrimmed] at hfilter
    refine ⟨_, rfl, ?_, ?_⟩
    · rw [← hdropped, htrimmed, List.getLast?_append, String.toList_ofList, List.head?_reverse, List.getLast?_cons]
      rfl
    · rw [← hfilter]
      change (namesOf (String.ofList _).toList).filter isName = _
      rw [String.toList_ofList]

/-- The folder of a path lies at the end of its way. -/
theorem filter_way {way : List String} (hfile : path.meansFolder = false) (h : path.Leads path.start way name) :
    (path.folder? = none → way = []) ∧ ∀ folder, path.folder? = some folder →
      folder.start = path.start ∧ folder.names.filter isName = way.filter isName := by
  obtain ⟨htext, hword, hfront⟩ := exists_front hfile
  have hnames : namesOf path.text.toList = way ++ [name] := h.names
  rw [htext] at hnames
  rcases hfront with hfront | ⟨front, hfront⟩
  · rw [hfront, List.nil_append, namesOf_word hword] at hnames
    have hway : way = [] := by
      have hlength := congrArg List.length hnames
      simpa using hlength
    simp [folder?, hfront, hway]
  · rw [hfront, List.append_assoc, List.singleton_append, namesOf_slash, namesOf_word hword] at hnames
    obtain ⟨rfl, -⟩ := List.append_inj' hnames rfl
    obtain ⟨folder, hfolder, hhead, hfilter⟩ := exists_folder hfront
    have hbegin : path.text.toList.head? = (front ++ ['/']).head? := by
      rw [htext, hfront, List.head?_append]
      simp
    rw [hfolder]
    refine ⟨by simp, ?_⟩
    rintro _ ⟨⟩
    exact ⟨by rw [start_eq, start_eq, hbegin, hhead], hfilter⟩

/-- A name that a file can have. -/
structure IsFileName (word : List Char) : Prop where
  whole : '/' ∉ word
  ne_nil : word ≠ []
  ne_point : word ≠ ['.']
  ne_points : word ≠ ['.', '.']

theorem IsFileName.real (h : IsFileName word) :
    String.ofList word ≠ "" ∧ String.ofList word ≠ "." ∧ String.ofList word ≠ ".." :=
  ⟨fun heq => h.ne_nil (String.ofList_injective heq), fun heq => h.ne_point (String.ofList_injective heq),
    fun heq => h.ne_points (String.ofList_injective heq)⟩

/-- Files behind one and the same text lie on the same way. -/
theorem exists_leads (hfront : front = [] ∨ ∃ cs, front = cs ++ ['/']) :
    ∃ start way, ∀ word, IsFileName word → Leads ⟨String.ofList (front ++ word)⟩ start way (String.ofList word) := by
  rcases hfront with rfl | ⟨cs, rfl⟩
  · refine ⟨[], [], fun word hword => ⟨?_, ?_, hword.real⟩⟩
    · rw [start_eq, if_neg]
      rw [String.toList_ofList]
      exact fun hhead => hword.whole (List.mem_of_mem_head? hhead)
    · change namesOf (String.ofList _).toList = _
      rw [String.toList_ofList]
      exact namesOf_word hword.whole
  · refine ⟨(⟨String.ofList (cs ++ ['/'])⟩ : Path).start, namesOf cs, fun word hword => ⟨?_, ?_, hword.real⟩⟩
    · rw [start_eq, start_eq]
      simp
    · change namesOf (String.ofList _).toList = _
      rw [String.toList_ofList, List.append_assoc, List.singleton_append, namesOf_slash, namesOf_word hword.whole]

end Path
end PromptForm.Disk
