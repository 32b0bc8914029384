import PromptForm.Proofs.Disk.Ways

/-! # Files that are replaced

A text written beside the file that it belongs to and then moved there is what is read from it, and no other file has
changed (`Disk.write_move`). The way there stays open, because the new file lies where the other one lay
(`Disk.isFolder_move`). -/

namespace PromptForm.Disk
variable {d : Disk} {p q base : Place} {text : String} {x y : String}

/-! ### What lies at a place -/

theorem lookup_filter (files : List (Place × String)) (p q : Place) :
    (files.filter fun f => f.1 != p).lookup q = if q = p then none else files.lookup q := by
  induction files with
  | nil => simp
  | cons f files ih =>
    by_cases hf : f.1 = p
    · rw [List.filter_cons_of_neg (by simp [hf]), ih, List.lookup_cons]
      by_cases hq : q = p
      · simp [hq]
      · simp [hq, hf, beq_eq_false_iff_ne.mpr hq]
    · rw [List.filter_cons_of_pos (by simp [hf]), List.lookup_cons, List.lookup_cons, ih]
      by_cases hq : q = p
      · simp [hq, beq_eq_false_iff_ne.mpr (Ne.symm hf)]
      · simp [hq]

theorem text?_put (d : Disk) (p : Place) (text : String) (q : Place) :
    (d.put p text).text? q = if q = p then some text else d.text? q := by
  rw [text?, put, List.lookup_cons, lookup_filter]
  by_cases hq : q = p
  · simp [hq]
  · simp [hq, text?, beq_eq_false_iff_ne.mpr hq]

theorem text?_drop (d : Disk) (p q : Place) : (d.drop p).text? q = if q = p then none else d.text? q :=
  lookup_filter d.files p q

/-! ### Folders -/

theorem isFolder_iff : d.isFolder p = true ↔ (p.all (· == "..") = true ∨ p = ["/"]) ∨ (∃ q ∈ d.folders, p <+: q) ∨
    ∃ f ∈ d.files, p <+: f.1 ∧ f.1 ≠ p := by
  simp [isFolder, or_assoc]

/-- A file that is written takes no folder away. -/
theorem isFolder_put (h : d.isFolder q = true) (p : Place) (text : String) : (d.put p text).isFolder q = true := by
  rw [isFolder_iff] at h ⊢
  refine h.imp_right (Or.imp_right ?_)
  rintro ⟨f, hf, hbegins, hne⟩
  by_cases hplace : f.1 = p
  · exact ⟨(p, text), List.mem_cons_self, hplace ▸ hbegins, hplace ▸ hne⟩
  · exact ⟨f, List.mem_cons_of_mem _ (List.mem_filter.mpr ⟨hf, by simpa using hplace⟩), hbegins, hne⟩

/-- A file that is written makes folders only of what leads to it. -/
theorem isFolder_of_put (h : (d.put p text).isFolder q = true) : d.isFolder q = true ∨ q <+: p ∧ p ≠ q := by
  rw [isFolder_iff] at h ⊢
  rcases h with h | h | ⟨f, hf, hbegins, hne⟩
  · exact .inl (.inl h)
  · exact .inl (.inr (.inl h))
  · rcases List.mem_cons.mp hf with rfl | hf
    · exact .inr ⟨hbegins, hne⟩
    · exact .inl (.inr (.inr ⟨f, (List.mem_filter.mp hf).1, hbegins, hne⟩))

/-- A file that is moved within its folder takes no folder away. -/
theorem isFolder_move (h : d.isFolder q = true) (hq : q ≠ base ++ [x]) :
    ((d.drop (base ++ [x])).put (base ++ [y]) text).isFolder q = true := by
  rw [isFolder_iff] at h ⊢
  refine h.imp_right (Or.imp_right ?_)
  -- What leads to one file of the folder leads to every other one.
  have hnew : ∀ z, q <+: base ++ [z] → base ++ [z] ≠ q → q <+: base ++ [y] ∧ base ++ [y] ≠ q := by
    intro z hbegins hne
    have hbase : q <+: base := (List.prefix_concat_iff.mp hbegins).resolve_left (Ne.symm hne)
    refine ⟨hbase.trans (List.prefix_append base [y]), ?_⟩
    rintro rfl
    exact absurd hbase.length_le (by simp)
  rintro ⟨f, hf, hbegins, hne⟩
  by_cases hx : f.1 = base ++ [x]
  · exact ⟨(base ++ [y], text), List.mem_cons_self, hnew x (hx ▸ hbegins) (hx ▸ hne)⟩
  · by_cases hy : f.1 = base ++ [y]
    · exact ⟨(base ++ [y], text), List.mem_cons_self, hnew y (hy ▸ hbegins) (hy ▸ hne)⟩
    · refine ⟨f, List.mem_cons_of_mem _ ?_, hbegins, hne⟩
      rw [drop, List.mem_filter, List.mem_filter]
      exact ⟨⟨hf, by simpa using hx⟩, by simpa using hy⟩

/-- A file that is written makes no folder of the file beside it. -/
theorem isFolder_put_beside (h : d.isFolder (base ++ [y]) = false) (x text : String) :
    (d.put (base ++ [x]) text).isFolder (base ++ [y]) = false := by
  rw [Bool.eq_false_iff]
  intro hfolder
  rcases isFolder_of_put hfolder with hfolder | ⟨hbegins, hne⟩
  · rw [h] at hfolder
    cases hfolder
  · refine hne (hbegins.eq_of_length ?_).symm
    rw [List.length_append, List.length_append]
    rfl

/-! ### Writing beside a file and moving there -/

section Replacing
variable {start : Place} {way : List String} {draft path : Path}

theorem read_ok (h : path.Leads start way y) (hopen : ∃ p, way.foldlM d.enter start = .ok p)
    (htext : d.text? path.place = some text) : d.read path = .ok text := by
  obtain ⟨p, hopen⟩ := hopen
  rw [read, if_neg h.text_ne, follow, h.way_eq, h.start, hopen]
  simp [htext, h.meansFolder_eq]

theorem write_ok (h : path.Leads start way y) (hopen : ∃ p, way.foldlM d.enter start = .ok p)
    (hfree : d.isFolder path.place = false) (text : String) : d.write path text = .ok (d.put path.place text) := by
  obtain ⟨p, hopen⟩ := hopen
  rw [write, if_neg h.text_ne, follow, h.way_eq, h.start, hopen]
  simp [hfree, h.meansFolder_eq]

theorem move_ok (h : path.Leads start way y) (hopen : ∃ p, way.foldlM d.enter start = .ok p)
    (hfree : d.isFolder path.place = false) (hread : d.read draft = .ok text) :
    d.move draft path = .ok ((d.drop draft.place).put path.place text) := by
  obtain ⟨p, hopen⟩ := hopen
  rw [move, hread, follow, h.way_eq, h.start, hopen]
  simp [hfree, h.meansFolder_eq, h.endsInStep_eq]
  rfl

/-- A text that is written beside a file and then moved there. -/
theorem write_move (hdraft : draft.Leads start way x) (hpath : path.Leads start way y)
    (hopen : ∃ p, way.foldlM d.enter start = .ok p) (hdraftFree : d.isFolder draft.place = false)
    (hpathFree : d.isFolder path.place = false) (text : String) :
    ∃ d₁ d₂, d.write draft text = .ok d₁ ∧ d₁.move draft path = .ok d₂ ∧ d₂.read path = .ok text ∧
      ∀ p, d₂.text? p = if p = path.place then some text else if p = draft.place then none else d.text? p := by
  -- The way is open before the draft is written, while it is there, and after it was moved.
  have hopenDraft : ∃ p, way.foldlM (d.put draft.place text).enter start = .ok p :=
    hopen.imp fun p hp => foldlM_enter_mono (fun q hq => isFolder_put hq draft.place text) hp
  have hopenMoved : ∃ p, way.foldlM (((d.put draft.place text).drop draft.place).put path.place text).enter start =
      .ok p := by
    refine hopen.imp fun p hp => foldlM_enter_mono (fun q hq => ?_) hp
    have hkept := isFolder_put hq draft.place text
    rw [hpath.place_eq]
    rw [hdraft.place_eq] at hkept hdraftFree ⊢
    refine isFolder_move hkept ?_
    rintro rfl
    rw [hdraftFree] at hq
    cases hq
  have hfree : (d.put draft.place text).isFolder path.place = false := by
    rw [hpath.place_eq] at hpathFree ⊢
    rw [hdraft.place_eq]
    exact isFolder_put_beside hpathFree x text
  have hread : (d.put draft.place text).read draft = .ok text :=
    read_ok hdraft hopenDraft (by rw [text?_put, if_pos rfl])
  refine ⟨_, _, write_ok hdraft hopen hdraftFree text, move_ok hpath hopenDraft hfree hread,
    read_ok hpath hopenMoved (by rw [text?_put, if_pos rfl]), fun p => ?_⟩
  rw [text?_put, text?_drop, text?_put]
  split
  · rfl
  · split <;> rfl

end Replacing

end PromptForm.Disk
