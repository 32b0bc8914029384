import PromptForm.Proofs.Toml.Values

/-! # Configuration files, written and read back

A file is read statement by statement, and a written file has one statement a line: a header for each section and an
entry for each of its values (`Toml.statements?_write`). Laid out as tables these are the sections as objects
(`Toml.read?_write`), as long as the names can stand without quotes and no name is given twice. -/

namespace PromptForm

/-! ### Fields put in twice -/

namespace Fields
variable {α β : Type}

theorem insert_insert (key : String) (v w : α) : ∀ fields : List (String × α),
    insert key v (insert key w fields) = insert key v fields
  | [] => by simp [insert]
  | (k, x) :: rest => by
    by_cases hk : k = key
    · simp [insert, hk]
    · by_cases hlt : key < k
      · simp [insert, hk, hlt]
      · simp [insert, hk, hlt, insert_insert key v w rest]

theorem get?_insertAll_of_not_mem {key : String} {pairs fields : List (String × α)} (h : key ∉ pairs.map Prod.fst) :
    get? key (insertAll pairs fields) = get? key fields := by
  induction pairs generalizing fields with
  | nil => rfl
  | cons pair pairs ih =>
    rw [List.map_cons, List.mem_cons, not_or] at h
    rw [insertAll, List.foldl_cons, ← insertAll, ih h.2, get?_insert, if_neg (Ne.symm h.1)]

/-- Where no key is given twice each key has its value. -/
theorem get?_ofList {pairs : List (String × α)} (h : (pairs.map Prod.fst).Nodup) (key : String) :
    get? key (ofList pairs) = get? key pairs := by
  have hall : ∀ fields, get? key (insertAll pairs fields) = (get? key pairs).or (get? key fields) := by
    induction pairs with
    | nil => exact fun _ => rfl
    | cons pair pairs ih =>
      obtain ⟨hpair, hpairs⟩ := List.nodup_cons.mp h
      intro fields
      rw [insertAll, List.foldl_cons, ← insertAll, get?]
      by_cases hkey : pair.1 = key
      · rw [get?_insertAll_of_not_mem (hkey ▸ hpair), get?_insert, if_pos hkey, if_pos hkey]
        rfl
      · rw [ih hpairs, get?_insert, if_neg hkey, if_neg hkey]
  rw [ofList, hall, get?_nil, Option.or_none]

end Fields

namespace Toml
variable {name : String} {rest : List Char} {fuel : Nat}

/-! ### Names -/

/-- A name that can stand without quotes. -/
structure IsBare (name : String) : Prop where
  ne_nil : name.toList ≠ []
  bare : ∀ c ∈ name.toList, isBareChar c = true

instance : Decidable (IsBare name) :=
  decidable_of_iff (name.toList ≠ [] ∧ name.toList.all isBareChar = true)
    ⟨fun h => ⟨h.1, List.all_eq_true.mp h.2⟩, fun h => ⟨h.ne_nil, List.all_eq_true.mpr h.bare⟩⟩

/-- A name without quotes begins with a character of names. -/
theorem IsBare.exists_cons (h : IsBare name) : ∃ c cs, name.toList = c :: cs ∧ isBareChar c = true := by
  obtain ⟨c, cs, hname⟩ := List.exists_cons_of_ne_nil h.ne_nil
  exact ⟨c, cs, hname, h.bare c (hname ▸ List.mem_cons_self)⟩

theorem name?_bare (h : IsBare name) {d : Char} (hd : isBareChar d = false) (rest : List Char) :
    name? (name.toList ++ d :: rest) = some (name, d :: rest) := by
  obtain ⟨c, cs, hname, hc⟩ := h.exists_cons
  have hstring : lineString? (name.toList ++ d :: rest) = none := by
    rw [hname]
    exact lineString?_of_ne (ne_of_word hc (by decide)) (ne_of_word hc (by decide)) _
  rw [name?, hstring]
  simp only [takeWhile_word h.bare hd, dropWhile_word h.bare hd, List.isEmpty_eq_false_iff.mpr h.ne_nil,
    String.ofList_toList]
  rfl

theorem key?_bare (h : IsBare name) {d : Char} (hd : isBareChar d = false)
    (hmore : ∀ cs, skipBlanks (d :: rest) ≠ '.' :: cs) :
    key? (name.toList ++ d :: rest) = some (⟨[], name⟩, skipBlanks (d :: rest)) := by
  rw [key?, names?, name?_bare h hd]
  simp only [Option.bind_eq_bind, Option.bind_some]

/-! ### Statements -/

/-- A section that reads back as one table. -/
structure Section.IsSound (s : Section) : Prop where
  name : IsBare s.name
  names : ∀ e ∈ s.entries, IsBare e.1
  values : ∀ e ∈ s.entries, e.2.ReadsBack
  nodup : (s.entries.map Prod.fst).Nodup

/-- What an entry says. -/
def entryStatement (e : String × Plain) : Statement := .entry ⟨[], e.1⟩ e.2.toValue

/-- What a section says, line by line. -/
def Section.statements (s : Section) : List Statement := .header ⟨[], s.name⟩ :: s.entries.map entryStatement

theorem skipBlanks_bare (h : IsBare name) (rest : List Char) :
    skipBlanks (name.toList ++ rest) = name.toList ++ rest := by
  obtain ⟨c, cs, hname, hc⟩ := h.exists_cons
  have hblank : isBlank c = false := isBlank_of_word hc (by decide) (by decide)
  rw [hname, List.cons_append, skipBlanks, List.dropWhile_cons_of_neg (by simp [hblank])]

theorem statement?_header (h : IsBare name) (rest : List Char) :
    statement? ('[' :: name.toList ++ ']' :: rest) = some (.header ⟨[], name⟩, rest) := by
  obtain ⟨c, cs, hname, hc⟩ := h.exists_cons
  have hkey : key? (skipBlanks (name.toList ++ ']' :: rest)) = some (⟨[], name⟩, ']' :: rest) := by
    rw [skipBlanks_bare h, key?_bare h (by decide)]
    · rfl
    · exact fun cs heq => absurd (List.cons_eq_cons.mp heq).1 (by decide)
  rw [List.cons_append, statement?, hkey]
  · rfl
  · intro cs' heq
    rw [hname] at heq
    exact ne_of_word hc (by decide) (List.cons_eq_cons.mp heq).1

theorem keyEquals?_entry (h : IsBare name) (p : Plain) (rest : List Char) :
    keyEquals? (name.toList ++ [' ', '=', ' '] ++ p.write ++ '\n' :: rest) =
      some (⟨[], name⟩, p.write ++ '\n' :: rest) := by
  have hkey : key? (name.toList ++ ' ' :: '=' :: ' ' :: (p.write ++ '\n' :: rest)) =
      some (⟨[], name⟩, '=' :: ' ' :: (p.write ++ '\n' :: rest)) :=
    key?_bare h (by decide) fun cs heq => absurd (List.cons_eq_cons.mp heq).1 (by decide)
  rw [List.append_assoc, List.append_assoc, List.cons_append, List.cons_append, List.cons_append, List.nil_append,
    keyEquals?, hkey]
  exact congrArg (fun cs => some (_, cs)) (skipBlanks_write p rest)

theorem statement?_entry {e : String × Plain} (h : IsBare e.1) (hback : e.2.ReadsBack) (rest : List Char) :
    statement? (writeEntry e ++ rest) = some (entryStatement e, '\n' :: rest) := by
  obtain ⟨c, cs, hname, hc⟩ := h.exists_cons
  have hkey := keyEquals?_entry h e.2 rest
  have hvalue : value? (2 * (e.2.write ++ '\n' :: rest).length + 2) maxNesting (e.2.write ++ '\n' :: rest) =
      some (e.2.toValue, '\n' :: rest) := value?_write hback maxNesting rest
  rw [writeEntry, List.append_assoc, List.cons_append, List.nil_append]
  rw [hname, List.cons_append, List.cons_append, List.cons_append] at hkey ⊢
  rw [statement?, hkey]
  · simp only [Option.bind_eq_bind, Option.bind_some, hvalue]
    rfl
  · exact fun _ heq => ne_of_word hc (by decide) (List.cons_eq_cons.mp heq).1
  · exact fun _ heq => ne_of_word hc (by decide) (List.cons_eq_cons.mp heq).1

theorem endLine?_break (rest : List Char) : endLine? ('\n' :: rest) = some rest := rfl

/-- One statement and the end of its line. -/
theorem statements?_line {cs : List Char} {c : Char} {s : Statement} (hblank : isBlank c = false) (hcomment : c ≠ '#')
    (hbreak : lineBreak? (c :: cs) = none) (hs : statement? (c :: cs) = some (s, '\n' :: rest)) :
    statements? (fuel + 1) (c :: cs) = (statements? fuel rest).map (s :: ·) := by
  have hskip : skipBlanks (c :: cs) = c :: cs := List.dropWhile_cons_of_neg (by simp [hblank])
  rw [statements?, hskip]
  simp [hcomment, hbreak, hs, endLine?_break]

theorem statements?_entry {e : String × Plain} (h : IsBare e.1) (hback : e.2.ReadsBack) (rest : List Char) :
    statements? (fuel + 1) (writeEntry e ++ rest) = (statements? fuel rest).map (entryStatement e :: ·) := by
  obtain ⟨c, cs, hname, hc⟩ := h.exists_cons
  have hs := statement?_entry h hback rest
  obtain ⟨text, htext⟩ : ∃ text, writeEntry e ++ rest = c :: text := ⟨_, by rw [writeEntry, hname]; rfl⟩
  rw [htext] at hs ⊢
  exact statements?_line (isBlank_of_word hc (by decide) (by decide)) (ne_of_word hc (by decide))
    (lineBreak?_of_ne (ne_of_word hc (by decide)) (ne_of_word hc (by decide))) hs

theorem statements?_header (h : IsBare name) (rest : List Char) :
    statements? (fuel + 1) ('[' :: name.toList ++ [']', '\n'] ++ rest) =
      (statements? fuel rest).map (.header ⟨[], name⟩ :: ·) := by
  rw [List.append_assoc, List.cons_append]
  exact statements?_line (by decide) (by decide) (lineBreak?_of_ne (by decide) (by decide)) (statement?_header h _)

theorem statements?_empty (rest : List Char) : statements? (fuel + 1) ('\n' :: rest) = statements? fuel rest := rfl

theorem statements?_entries {entries : List (String × Plain)} (hnames : ∀ e ∈ entries, IsBare e.1)
    (hvalues : ∀ e ∈ entries, e.2.ReadsBack) (rest : List Char) :
    statements? (fuel + entries.length) (entries.flatMap writeEntry ++ rest) =
      (statements? fuel rest).map (entries.map entryStatement ++ ·) := by
  induction entries with
  | nil => simp
  | cons e entries ih =>
    obtain ⟨hname, hnames⟩ := List.forall_mem_cons.mp hnames
    obtain ⟨hvalue, hvalues⟩ := List.forall_mem_cons.mp hvalues
    rw [List.flatMap_cons, List.append_assoc, List.length_cons, ← Nat.add_assoc, statements?_entry hname hvalue,
      ih hnames hvalues, Option.map_map]
    rfl

/-- The lines of a section. -/
def Section.lines (s : Section) : Nat := s.entries.length + 2

theorem statements?_section {s : Section} (h : s.IsSound) (rest : List Char) :
    statements? (fuel + s.lines) (s.write ++ rest) = (statements? fuel rest).map (s.statements ++ ·) := by
  have hlines : fuel + s.lines = fuel + 1 + s.entries.length + 1 := by
    rw [Section.lines]
    omega
  rw [hlines, Section.write, List.append_assoc, List.append_assoc, statements?_header h.name,
    statements?_entries h.names h.values, List.singleton_append, statements?_empty, Option.map_map]
  rfl

theorem Section.lines_le (s : Section) : s.lines ≤ s.write.length := by
  have hentries : s.entries.length ≤ (s.entries.flatMap writeEntry).length := by
    induction s.entries with
    | nil => exact Nat.le_refl 0
    | cons e entries ih =>
      rw [List.length_cons, List.flatMap_cons, List.length_append, writeEntry, List.length_append]
      exact Nat.add_comm 1 _ ▸ Nat.add_le_add (Nat.le_add_left 1 _) ih
  simp only [Section.lines, Section.write, List.length_append, List.length_cons, List.length_nil]
  omega

/-- A written file says what its sections say. -/
theorem statements?_write {sections : List Section} (h : ∀ s ∈ sections, s.IsSound)
    (hfuel : (sections.flatMap Section.write).length < fuel) :
    statements? fuel (sections.flatMap Section.write) = some (sections.flatMap Section.statements) := by
  induction sections generalizing fuel with
  | nil =>
    obtain ⟨fuel, rfl⟩ := Nat.exists_eq_add_of_le' hfuel
    rfl
  | cons s sections ih =>
    obtain ⟨hs, hsections⟩ := List.forall_mem_cons.mp h
    rw [List.flatMap_cons, List.length_append] at hfuel
    -- A section has no more lines than characters, so the fuel for the text is enough for its lines.
    obtain ⟨more, rfl⟩ := Nat.exists_eq_add_of_le' (Nat.le_trans s.lines_le (by omega : s.write.length ≤ fuel))
    have hlines := s.lines_le
    rw [List.flatMap_cons, statements?_section hs, ih hsections (by omega)]
    rfl

/-! ### Tables -/

/-- The table of a section. -/
def Section.table (s : Section) : Entry :=
  .table .header (Fields.ofList (s.entries.map fun e => (e.1, .value e.2.toValue)))

/-- A section as an object. -/
def Section.toValue (s : Section) : Value := .object (Fields.ofList (s.entries.map fun e => (e.1, e.2.toValue)))

theorem Entry.fieldsOf_insert (key : String) (e : Entry) : ∀ t : Entries,
    Entry.fieldsOf (Fields.insert key e t) = Fields.insert key e.toValue (Entry.fieldsOf t)
  | [] => rfl
  | (k, x) :: t => by
    rw [Fields.insert, Entry.fieldsOf, Fields.insert]
    by_cases hk : k = key
    · rw [if_pos hk, if_pos hk, Entry.fieldsOf]
    · by_cases hlt : key < k
      · rw [if_neg hk, if_pos hlt, if_neg hk, if_pos hlt, Entry.fieldsOf, Entry.fieldsOf]
      · rw [if_neg hk, if_neg hlt, if_neg hk, if_neg hlt, Entry.fieldsOf, Entry.fieldsOf_insert key e t]

theorem Entry.fieldsOf_insertAll (pairs t : Entries) : Entry.fieldsOf (Fields.insertAll pairs t) =
    Fields.insertAll (pairs.map fun p => (p.1, p.2.toValue)) (Entry.fieldsOf t) := by
  induction pairs generalizing t with
  | nil => rfl
  | cons pair pairs ih =>
    rw [Fields.insertAll, List.foldl_cons, ← Fields.insertAll, ih, Entry.fieldsOf_insert]
    rfl

theorem Section.toValue_table (s : Section) : s.table.toValue = s.toValue := by
  rw [Section.table, Entry.toValue, Fields.ofList, Entry.fieldsOf_insertAll, List.map_map]
  rfl

theorem apply_header {root : Entries} (h : Fields.get? name root = none) (current : List String) :
    Document.apply? ⟨root, current⟩ (.header ⟨[], name⟩) =
      some ⟨Fields.insert name (.table .header []) root, [name]⟩ := by
  simp [ Document.apply?, Entries.within?, Entries.openTable?, h]

theorem apply_entry {e : String × Plain} {t : Entries} (h : Fields.get? e.1 t = none) (root : Entries) :
    Document.apply? ⟨Fields.insert name (.table .header t) root, [name]⟩ (entryStatement e) =
      some ⟨Fields.insert name (.table .header (Fields.insert e.1 (.value e.2.toValue) t)) root, [name]⟩ := by
  simp [ Document.apply?, entryStatement, Entries.within?, Entries.putUnder?, Entries.put?, Fields.has, h,
    Fields.get?_insert, Fields.insert_insert]

/-- The entries of an open table, none of them in it yet. -/
theorem foldlM_entries {entries : List (String × Plain)} (hnodup : (entries.map Prod.fst).Nodup) {t : Entries}
    (hfresh : ∀ e ∈ entries, Fields.get? e.1 t = none) (root : Entries) :
    (entries.map entryStatement).foldlM Document.apply? ⟨Fields.insert name (.table .header t) root, [name]⟩ =
      some ⟨Fields.insert name (.table .header
        (Fields.insertAll (entries.map fun e => (e.1, .value e.2.toValue)) t)) root, [name]⟩ := by
  induction entries generalizing t with
  | nil => rfl
  | cons e entries ih =>
    obtain ⟨he, hnodup⟩ := List.nodup_cons.mp hnodup
    obtain ⟨hfree, hfresh⟩ := List.forall_mem_cons.mp hfresh
    have hfresh' : ∀ e' ∈ entries, Fields.get? e'.1 (Fields.insert e.1 (.value e.2.toValue) t) = none := by
      intro e' he'
      rw [Fields.get?_insert, if_neg, hfresh e' he']
      exact fun heq => he (heq ▸ List.mem_map_of_mem he')
    rw [List.map_cons, List.foldlM_cons, apply_entry hfree, Option.bind_eq_bind, Option.bind_some, ih hnodup hfresh']
    rfl

theorem foldlM_section {s : Section} (h : s.IsSound) {root : Entries} (hfree : Fields.get? s.name root = none)
    (current : List String) : s.statements.foldlM Document.apply? ⟨root, current⟩ =
      some ⟨Fields.insert s.name s.table root, [s.name]⟩ := by
  rw [Section.statements, List.foldlM_cons, apply_header hfree, Option.bind_eq_bind, Option.bind_some,
    foldlM_entries h.nodup fun _ _ => rfl]
  rfl

theorem foldlM_sections {sections : List Section} (h : ∀ s ∈ sections, s.IsSound)
    (hnodup : (sections.map Section.name).Nodup) {root : Entries}
    (hfresh : ∀ s ∈ sections, Fields.get? s.name root = none) (current : List String) :
    ∃ last, (sections.flatMap Section.statements).foldlM Document.apply? ⟨root, current⟩ =
      some ⟨Fields.insertAll (sections.map fun s => (s.name, s.table)) root, last⟩ := by
  induction sections generalizing root current with
  | nil => exact ⟨current, rfl⟩
  | cons s sections ih =>
    obtain ⟨hs, hnodup⟩ := List.nodup_cons.mp hnodup
    obtain ⟨hfree, hfresh⟩ := List.forall_mem_cons.mp hfresh
    obtain ⟨hsound, hsounds⟩ := List.forall_mem_cons.mp h
    have hfresh' : ∀ s' ∈ sections, Fields.get? s'.name (Fields.insert s.name s.table root) = none := by
      intro s' hs'
      rw [Fields.get?_insert, if_neg, hfresh s' hs']
      exact fun heq => hs (heq ▸ List.mem_map_of_mem hs')
    obtain ⟨last, hlast⟩ := ih hsounds hnodup hfresh' [s.name]
    refine ⟨last, ?_⟩
    rw [List.flatMap_cons, List.foldlM_append, foldlM_section hsound hfree, Option.bind_eq_bind, Option.bind_some,
      hlast]
    rfl

/-- No byte order mark stands before a written file. -/
theorem toList_write_ne (sections : List Section) (cs : List Char) : (write sections).toList ≠ '\ufeff' :: cs := by
  rw [write, String.toList_ofList]
  cases sections with
  | nil => exact (List.cons_ne_nil _ _).symm
  | cons s sections => exact fun heq => absurd (List.cons_eq_cons.mp heq).1 (by decide)

/-- A written file reads back: each section an object under its name. -/
theorem read?_write {sections : List Section} (h : ∀ s ∈ sections, s.IsSound)
    (hnodup : (sections.map Section.name).Nodup) :
    read? (write sections) = some (.object (Fields.ofList (sections.map fun s => (s.name, s.toValue)))) := by
  have hfresh : ∀ s ∈ sections, Fields.get? s.name ([] : Entries) = none := fun _ _ => rfl
  obtain ⟨last, hlast⟩ := foldlM_sections h hnodup hfresh []
  have htables : (sections.map fun s => (s.name, s.table)).map (fun p => (p.1, p.2.toValue)) =
      sections.map fun s => (s.name, s.toValue) := by
    simp [Section.toValue_table]
  rw [read?]
  split
  · next cs heq => exact absurd heq (toList_write_ne sections cs)
  · rw [write, String.toList_ofList, statements?_write h (Nat.lt_succ_self _)]
    simp only [Option.bind_eq_bind, Option.bind_some, Document.ofStatements?, hlast, Document.toValue, Fields.ofList,
      Entry.fieldsOf_insertAll, htables, Entry.fieldsOf]

end Toml
end PromptForm
