import PromptForm.Environment.Store
import PromptForm.Proofs.Disk.Files
import PromptForm.Proofs.Environment.Documents

/-! # Configurations, saved and loaded

A configuration is written into a draft beside its file, so the draft and the file lie on one way, and the folder that
is made for them opens that way (`Config.withFolder_ok`). Then the draft is moved, and what is loaded is what was saved
(`Config.save_load`), unless a folder stands where the draft or the file belongs. -/

namespace PromptForm.Config
variable {c : Config} {d d' : Disk} {path : Disk.Path}

/-- A path under which a configuration can be saved: it names a file, the folder of the file is there or can be made,
and after that no folder stands in the place of the file or of its draft. -/
structure Savable (d : Disk) (path : Disk.Path) : Prop where
  named : path.hasFileName = true
  file : path.meansFolder = false
  folder : ∃ d', withFolder d path = .ok d' ∧ d'.isFolder path.place = false ∧
    d'.isFolder (draftPath path).place = false

theorem isFileName_split (hnamed : path.hasFileName = true) (hfile : path.meansFolder = false) :
    Disk.Path.IsFileName path.split.2 := by
  have hname : path.split.2 ≠ [] ∧ path.split.2 ≠ ['.'] ∧ path.split.2 ≠ ['.', '.'] := by
    simpa [Disk.Path.hasFileName, and_assoc] using hnamed
  exact ⟨(Disk.Path.exists_front hfile).2.1, hname.1, hname.2.1, hname.2.2⟩

theorem isFileName_draft (h : Disk.Path.IsFileName path.split.2) :
    Disk.Path.IsFileName (Disk.Path.stemOf path.split.2 ++ '.' :: "toml.tmp".toList) where
  whole hmem := by
    rcases List.mem_append.mp hmem with hmem | hmem
    · exact h.whole (Disk.Path.stemOf_subset _ hmem)
    · exact absurd hmem (by decide)
  ne_nil := by simp
  ne_point heq := absurd (congrArg List.length heq) (by simp)
  ne_points heq := absurd (congrArg List.length heq) (by simp)

/-- A file and its draft lie on the same way. -/
theorem exists_leads (hnamed : path.hasFileName = true) (hfile : path.meansFolder = false) :
    ∃ way x y, (draftPath path).Leads path.start way x ∧ path.Leads path.start way y := by
  obtain ⟨htext, -, hfront⟩ := Disk.Path.exists_front hfile
  obtain ⟨start, way, hleads⟩ := Disk.Path.exists_leads hfront
  have hname := isFileName_split hnamed hfile
  have hpath := hleads _ hname
  rw [← htext, String.ofList_toList] at hpath
  have hdraft := hleads _ (isFileName_draft hname)
  have hdraftPath : draftPath path = ⟨String.ofList (path.split.1 ++
      (Disk.Path.stemOf path.split.2 ++ '.' :: "toml.tmp".toList))⟩ := by
    rw [draftPath, Disk.Path.withExtension, if_pos hnamed, ← List.append_assoc]
  rw [← hdraftPath] at hdraft
  rw [hpath.start]
  exact ⟨way, _, _, hdraft, hpath⟩

/-- The folder of a file is made so that its way is open, and nothing else changes. -/
theorem withFolder_ok {way : List String} {name : String} (hfile : path.meansFolder = false)
    (hpath : path.Leads path.start way name) (h : withFolder d path = .ok d') :
    d'.files = d.files ∧ ∃ p, way.foldlM d'.enter path.start = .ok p := by
  obtain ⟨hnone, hsome⟩ := Disk.Path.filter_way hfile hpath
  unfold withFolder at h
  -- A bare file name has no folder to be made: its way is empty.
  cases hfolder : path.folder? with
  | none =>
    rw [hfolder] at h
    cases h
    rw [hnone hfolder]
    exact ⟨rfl, path.start, rfl⟩
  | some folder =>
    rw [hfolder] at h
    obtain ⟨hstart, hfilter⟩ := hsome folder hfolder
    cases hmade : d.makeFolders folder with
    | error fault =>
      dsimp only at h
      rw [hmade] at h
      cases h
    | ok made =>
      dsimp only at h
      rw [hmade] at h
      cases h
      obtain ⟨hgrows, p, hopen⟩ := Disk.makeBackwards_ok hmade
      refine ⟨hgrows.files, p, ?_⟩
      rw [Disk.foldlM_enter_filter _ (Disk.isFolder_start _ _), Disk.Path.filter_backwards, hfilter, hstart] at hopen
      rw [Disk.foldlM_enter_filter _ (Disk.isFolder_start _ _), hopen]

/-- A configuration that is saved is loaded again as it was, and apart from its file, and a draft that is gone, every
file is as before. A faulty configuration changes nothing. -/
theorem save_load (c : Config) (d : Disk) (path : Disk.Path) :
    (c.fault? = none → c.IsWritable → Savable d path → ∃ d', c.save d path = (d', .ok ()) ∧ load d' path = .ok c ∧
      ∀ p, d'.text? p =
        if p = path.place then some c.toText else if p = (draftPath path).place then none else d.text? p) ∧
    ∀ fault, c.fault? = some fault → c.save d path = (d, .error (.refused fault)) := by
  constructor
  · intro hvalid hwritable ⟨hnamed, hfile, d₁, hfolder, hpathFree, hdraftFree⟩
    obtain ⟨way, x, y, hdraft, hpath⟩ := exists_leads hnamed hfile
    obtain ⟨hfiles, hopen⟩ := withFolder_ok hfile hpath hfolder
    obtain ⟨d₂, d₃, hwrite, hmove, hread, htexts⟩ :=
      Disk.write_move hdraft hpath hopen hdraftFree hpathFree c.toText
    refine ⟨d₃, ?_, ?_, fun p => ?_⟩
    · simp only [save, hvalid, hfolder, hwrite, hmove]
    · have hthere : d₃.has path = true := by rw [Disk.has, hread]
      simp only [load, hthere, if_true, hread, ofText?_toText hwritable, hvalid]
    · rw [htexts, Disk.text?, Disk.text?, hfiles]
  · intro fault hfault
    simp only [save, hfault]

theorem save_load_nested :
    ∃ d', save { llm := { model := some "a\"b\\\n\x01'", maxTokens := some 4096, temperature := some 0.7 }
                 output := { trim := some false, indent := some "\t" } }
        { files := [(["promptree.toml"], "")] } ⟨"nested/promptree.toml"⟩ = (d', .ok ()) ∧
      load d' ⟨"nested/promptree.toml"⟩ = .ok
        { llm := { model := some "a\"b\\\n\x01'", maxTokens := some 4096, temperature := some 0.7 }
          output := { trim := some false, indent := some "\t" } } ∧
      d'.text? ["promptree.toml"] = some "" := by
  obtain ⟨d', hsave, hload, htexts⟩ := (save_load
    { llm := { model := some "a\"b\\\n\x01'", maxTokens := some 4096, temperature := some 0.7 }
      output := { trim := some false, indent := some "\t" } }
    { files := [(["promptree.toml"], "")] } ⟨"nested/promptree.toml"⟩).1 (by decide +kernel)
    ⟨by rintro n ⟨⟩; decide +kernel, by rintro t ⟨⟩; decide +kernel⟩
    ⟨by decide +kernel, by decide +kernel, { files := [(["promptree.toml"], "")], folders := [["nested"]] },
      by decide +kernel⟩
  refine ⟨d', hsave, hload, (htexts _).trans ?_⟩
  decide +kernel

/-- The folder that is made on the way may have the name of the draft: then a configuration without fault, under a file
name in a folder that can be made, is not saved. -/
theorem save_beside_folder :
    fault? { user := { editor := some "vim" } } = none ∧ IsWritable { user := { editor := some "vim" } } ∧
      Disk.Path.hasFileName ⟨"a.toml.tmp/../a.toml"⟩ = true ∧ Disk.Path.meansFolder ⟨"a.toml.tmp/../a.toml"⟩ = false ∧
      withFolder {} ⟨"a.toml.tmp/../a.toml"⟩ = .ok { folders := [["a.toml.tmp"]] } ∧
      save { user := { editor := some "vim" } } {} ⟨"a.toml.tmp/../a.toml"⟩ =
        ({ folders := [["a.toml.tmp"]] }, .error (.notWritten ⟨"a.toml.tmp/../a.toml.tmp"⟩ .isFolder)) ∧
      load { folders := [["a.toml.tmp"]] } ⟨"a.toml.tmp/../a.toml"⟩ = .ok {} :=
  ⟨by decide +kernel, ⟨by simp, by simp⟩, by decide +kernel, by decide +kernel, by decide +kernel, by decide +kernel,
    by decide +kernel⟩

end PromptForm.Config
