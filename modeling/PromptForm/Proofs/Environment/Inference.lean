import Mathlib.Data.List.Nodup
import Mathlib.Data.List.Perm.Basic
import PromptForm.Environment.Provider
import PromptForm.Proofs.Text.Parts
import PromptForm.Proofs.Text.Pieces

/-! # Providers of models

The path of a model is read from the left: the first segment before the last one that names a vendor decides
(`Provider.Leads`). Without one it is the last segment that counts, first by how it begins and then by what it contains.
Of the table entries that begin a name the longest is a single one, in whatever order the table stands
(`Provider.Longest.unique`), and blanks around a segment do not matter (`Provider.ofSegments?_congr`). Together this says
what is inferred from every text (`Provider.inferred_from_path`). -/

namespace PromptForm

/-! ### Blanks -/

namespace Text

theorem isBlank_toLower (c : Char) : isBlank c.toLower = isBlank c := by
  unfold Char.toLower
  split
  · rename_i h
    obtain ⟨hlow, hhigh⟩ := h
    have hc : 65 ≤ c.toNat ∧ c.toNat ≤ 90 := ⟨hlow, hhigh⟩
    have hsmall : (c.val + ('a'.val - 'A'.val)).toNat = c.toNat + 32 := by
      rw [UInt32.toNat_add]
      exact Nat.mod_eq_of_lt (show c.toNat + 32 < 2 ^ 32 by omega)
    simp only [Char.toNat] at hc hsmall
    rw [Bool.eq_iff_iff]
    simp only [isBlank, Char.toNat, hsmall, Bool.or_eq_true, Bool.and_eq_true, decide_eq_true_eq, beq_iff_eq]
    omega
  · rfl

theorem trim_map_toLower (cs : List Char) : trim (cs.map Char.toLower) = (trim cs).map Char.toLower := by
  have hblank : isBlank ∘ Char.toLower = isBlank := funext isBlank_toLower
  simp only [trim, trimEnd, trimStart, List.dropWhile_map, hblank, ← List.map_reverse]

end Text

namespace Provider
open Text
variable {table : List (String × Provider)} {name : List Char} {entry e : String × Provider} {p : Provider}
  {segments : List (List Char)}

/-! ### Tables -/

theorem knownNames_nodup : (knownNames.map Prod.fst).Nodup := by decide

theorem modelPrefixes_nodup : (modelPrefixes.map Prod.fst).Nodup := by decide

/-- Where no key stands twice, an entry is known by its key. -/
theorem eq_of_key (htable : (table.map Prod.fst).Nodup) (he : e ∈ table) (hentry : entry ∈ table)
    (hkey : e.1 = entry.1) : e = entry :=
  List.inj_on_of_nodup_map htable he hentry hkey

theorem find?_key {k : String} (htable : (table.map Prod.fst).Nodup) :
    (table.find? (·.1 == k)).map (·.2) = some p ↔ (k, p) ∈ table := by
  rw [Option.map_eq_some_iff]
  constructor
  · rintro ⟨⟨l, q⟩, hfind, rfl⟩
    have hkey : l = k := by simpa using List.find?_some hfind
    exact hkey ▸ List.mem_of_find?_eq_some hfind
  · intro hmem
    cases hfind : table.find? (·.1 == k) with
    | none => exact absurd (List.find?_eq_none.mp hfind _ hmem) (by simp)
    | some e =>
      have hkey := List.find?_some hfind
      rw [eq_of_key htable (List.mem_of_find?_eq_some hfind) hmem (beq_iff_eq.mp hkey)]
      exact ⟨_, rfl, rfl⟩

/-! ### Names of vendors -/

/-- A segment of a path names a vendor. Nothing at all and `unspecified` name none. -/
def Names (segment : List Char) (p : Provider) : Prop :=
  (normalName (String.ofList segment), p) ∈ knownNames ∧ p ≠ .unspecified

/-- The leftmost of the segments that name a vendor. -/
def Leads (segments : List (List Char)) (p : Provider) : Prop := ∃ before vendor after,
  segments = before ++ vendor :: after ∧ (∀ segment ∈ before, ∀ q, ¬Names segment q) ∧ Names vendor p

/-- The vendor that a segment names. -/
def vendor? (segment : List Char) : Option Provider := (ofName? (String.ofList segment)).filter (· ≠ .unspecified)

theorem vendor?_eq_some {segment : List Char} : vendor? segment = some p ↔ Names segment p := by
  simp only [vendor?, Option.filter_eq_some_iff, Names, ofName?, find?_key knownNames_nodup, decide_eq_true_eq]

theorem vendor?_eq_none {segment : List Char} : vendor? segment = none ↔ ∀ q, ¬Names segment q := by
  simp only [Option.eq_none_iff_forall_ne_some, ne_eq, vendor?_eq_some]

theorem findSome?_vendor? : segments.findSome? vendor? = some p ↔ Leads segments p := by
  simp only [List.findSome?_eq_some_iff, vendor?_eq_some, vendor?_eq_none, Leads]
  constructor
  · rintro ⟨before, vendor, after, hsegments, hvendor, hbefore⟩
    exact ⟨before, vendor, after, hsegments, hbefore, hvendor⟩
  · rintro ⟨before, vendor, after, hsegments, hbefore, hvendor⟩
    exact ⟨before, vendor, after, hsegments, hvendor, hbefore⟩

/-! ### Beginnings -/

/-- The entry of a table that begins a name, where none that does so is longer. -/
structure Longest (table : List (String × Provider)) (name : List Char) (entry : String × Provider) : Prop where
  mem : entry ∈ table
  begins : entry.1.toList <+: name
  longest : ∀ e ∈ table, e.1.toList <+: name → e.1.length ≤ entry.1.length

/-- Two beginnings of one name that are equally long are the same. -/
theorem Longest.unique (htable : (table.map Prod.fst).Nodup) (he : Longest table name e)
    (hentry : Longest table name entry) : e = entry := by
  have hlength : e.1.toList.length = entry.1.toList.length := by
    simp only [String.length_toList]
    exact Nat.le_antisymm (hentry.longest e he.mem he.begins) (he.longest entry hentry.mem hentry.begins)
  have hbegins := List.prefix_of_prefix_length_le he.begins hentry.begins hlength.le
  exact eq_of_key htable he.mem hentry.mem (String.toList_inj.mp (hbegins.eq_of_length hlength))

theorem Longest.of_perm {table' : List (String × Provider)} (hperm : table.Perm table') (h : Longest table name entry) :
    Longest table' name entry :=
  ⟨hperm.mem_iff.mp h.mem, h.begins, fun e he => h.longest e (hperm.mem_iff.mpr he)⟩

/-- Keeping the longer one of two entries leaves one that no other exceeds. -/
theorem foldl_longer : ∀ (entries : List (String × Provider)) (best : String × Provider),
    ∃ kept ∈ best :: entries, entries.foldl longer (some best) = some kept ∧
      ∀ e ∈ best :: entries, e.1.length ≤ kept.1.length
  | [], best => ⟨best, List.mem_cons_self, rfl, by simp⟩
  | next :: entries, best => by
    rw [List.foldl_cons, longer]
    by_cases h : next.1.length < best.1.length
    · obtain ⟨kept, hmem, hfold, hleast⟩ := foldl_longer entries best
      obtain ⟨hbest, hentries⟩ := List.forall_mem_cons.mp hleast
      refine ⟨kept, ?_, by rw [if_pos h, hfold], ?_⟩
      · exact List.cons_subset_cons best (List.subset_cons_self next entries) hmem
      · exact List.forall_mem_cons.mpr ⟨hbest, List.forall_mem_cons.mpr ⟨h.le.trans hbest, hentries⟩⟩
    · obtain ⟨kept, hmem, hfold, hleast⟩ := foldl_longer entries next
      refine ⟨kept, List.mem_cons_of_mem best hmem, by rw [if_neg h, hfold], ?_⟩
      exact List.forall_mem_cons.mpr ⟨(Nat.not_lt.mp h).trans (hleast next List.mem_cons_self), hleast⟩

/-- The longest entry that begins a name is found if any begins it. -/
theorem byPrefix?_cases (table : List (String × Provider)) (name : List Char) :
    (∃ entry, Longest table name entry ∧ byPrefix? table name = some entry.2) ∨
      (∀ e ∈ table, ¬e.1.toList <+: name) ∧ byPrefix? table name = none := by
  have hmem : ∀ e, e ∈ table.filter (fun e => (afterPrefix? e.1.toList name).isSome) ↔
      e ∈ table ∧ e.1.toList <+: name := fun e => by rw [List.mem_filter, isSome_afterPrefix?]
  have hfold : byPrefix? table name =
      ((table.filter fun e => (afterPrefix? e.1.toList name).isSome).foldl longer none).map Prod.snd := rfl
  rw [hfold]
  cases hfilter : table.filter fun e => (afterPrefix? e.1.toList name).isSome with
  | nil =>
    refine .inr ⟨fun e he hbegins => ?_, rfl⟩
    have hnone := (hmem e).mpr ⟨he, hbegins⟩
    rw [hfilter] at hnone
    cases hnone
  | cons first rest =>
    obtain ⟨kept, hkept, hfold, hleast⟩ := foldl_longer rest first
    rw [← hfilter] at hkept hleast
    refine .inl ⟨kept, ⟨((hmem kept).mp hkept).1, ((hmem kept).mp hkept).2, fun e he hbegins => ?_⟩, ?_⟩
    · exact hleast e ((hmem e).mpr ⟨he, hbegins⟩)
    · rw [List.foldl_cons, longer, hfold]
      rfl

theorem byPrefix?_eq_some (htable : (table.map Prod.fst).Nodup) :
    byPrefix? table name = some p ↔ ∃ entry, Longest table name entry ∧ entry.2 = p := by
  rcases byPrefix?_cases table name with ⟨found, hfound, hname⟩ | ⟨hnone, hname⟩
  · rw [hname, Option.some.injEq]
    refine ⟨fun h => ⟨found, hfound, h⟩, ?_⟩
    rintro ⟨entry, hentry, rfl⟩
    rw [hfound.unique htable hentry]
  · rw [hname]
    exact iff_of_false nofun fun ⟨entry, hentry, _⟩ => hnone entry hentry.mem hentry.begins

theorem byPrefix?_eq_none : byPrefix? table name = none ↔ ∀ e ∈ table, ¬e.1.toList <+: name := by
  rcases byPrefix?_cases table name with ⟨found, hfound, hname⟩ | ⟨hnone, hname⟩
  · rw [hname]
    exact iff_of_false nofun fun h => h found hfound.mem hfound.begins
  · exact iff_of_true hname hnone

/-! ### Keywords -/

/-- The first of the keywords of a table that occur in a name. -/
def FirstWithin (table : List (String × Provider)) (name : List Char) (p : Provider) : Prop := ∃ before keyword after,
  table = before ++ (keyword, p) :: after ∧ (∀ e ∈ before, ¬e.1.toList <:+: name) ∧ keyword.toList <:+: name

theorem find?_contains : (table.find? fun (k, _) => contains name k.toList).map (·.2) = some p ↔
    FirstWithin table name p := by
  simp only [Option.map_eq_some_iff, List.find?_eq_some_iff_append, contains_iff, FirstWithin, Bool.not_eq_true',
    Bool.eq_false_iff, ne_eq]
  constructor
  · rintro ⟨⟨keyword, q⟩, ⟨hoccurs, before, after, htable, hbefore⟩, rfl⟩
    exact ⟨before, keyword, after, htable, hbefore, hoccurs⟩
  · rintro ⟨before, keyword, after, htable, hbefore, hoccurs⟩
    exact ⟨(keyword, p), ⟨hoccurs, before, after, htable, hbefore⟩, rfl⟩

/-! ### Paths -/

/-- What the last segment of a path suggests. -/
def ofLast? (last : List Char) : Option Provider :=
  (byPrefix? modelPrefixes (trim last)).or (byKeyword? (trim last))

theorem ofSegments?_concat (last : List Char) : ∀ front : List (List Char),
    ofSegments? (front ++ [last]) = (front.findSome? vendor?).or (ofLast? last)
  | [] => by rw [List.nil_append, List.findSome?_nil, Option.none_or, ofSegments?, ofLast?]
  | vendor :: front => by
    obtain ⟨next, rest, hrest⟩ := List.exists_cons_of_ne_nil (List.concat_ne_nil last front)
    rw [List.cons_append, hrest, ofSegments?, ← hrest, ofSegments?_concat last front, List.findSome?_cons, vendor?]
    · generalize ofName? (String.ofList vendor) = named
      cases named with
      | none => rfl
      | some p => cases p <;> rfl
    · simp

theorem vendor?_trim (segment : List Char) : vendor? (trim segment) = vendor? segment := by
  simp only [vendor?, ofName?, normalName, trimmed, String.toList_ofList, trim_trim]

/-- Blanks around segments do not matter. -/
theorem ofSegments?_congr {front front' : List (List Char)} {last last' : List Char}
    (h : (front ++ [last]).map trim = (front' ++ [last']).map trim) :
    ofSegments? (front ++ [last]) = ofSegments? (front' ++ [last']) := by
  have hvendors : ∀ segments : List (List Char), (segments.map trim).findSome? vendor? = segments.findSome? vendor? :=
    fun segments => by simp only [List.findSome?_map, Function.comp_def, vendor?_trim]
  rw [List.map_append, List.map_append] at h
  obtain ⟨hfront, hlast⟩ := List.append_inj' h rfl
  have htrim : trim last = trim last' := (List.cons.inj hlast).1
  rw [ofSegments?_concat, ofSegments?_concat, ← hvendors, hfront, hvendors, ofLast?, htrim, ← ofLast?]

/-- The capitals of a model's name and blanks around it do not matter. -/
theorem infer?_normalName (model : String) : infer? model =
    ofSegments? (splitBy (· == '/') (normalName model).toList) := by
  have hslash : ∀ c, isBlank c = true → (c == '/') = false := fun c hc => by
    refine beq_false_of_ne ?_
    rintro rfl
    exact absurd hc (by decide)
  have hname : (normalName model).toList = trim (model.toList.map Char.toLower) := by
    simp only [normalName, asciiLower, trimmed, String.toList_ofList, trim_map_toLower]
  have htrim := trim_splitBy_trim hslash (model.toList.map Char.toLower)
  obtain ⟨front, last, hpieces, -⟩ := exists_last_piece (· == '/') (model.toList.map Char.toLower)
  obtain ⟨front', last', hpieces', -⟩ := exists_last_piece (· == '/') (trim (model.toList.map Char.toLower))
  rw [hpieces, hpieces'] at htrim
  rw [infer?, hname, hpieces, hpieces']
  exact ofSegments?_congr htrim.symm

/-! ### What a model suggests -/

/-- What the last segment of a path suggests: the provider of the longest entry of a table that begins it or, when none
    does, of the first keyword in it. -/
def LastSuggests (table : List (String × Provider)) (name : List Char) (p : Provider) : Prop :=
  (∃ entry, Longest table name entry ∧ entry.2 = p) ∨
    (∀ e ∈ table, ¬e.1.toList <+: name) ∧ FirstWithin modelKeywords name p

theorem ofLast?_eq_some (htable : table.Perm modelPrefixes) {last : List Char} :
    ofLast? last = some p ↔ LastSuggests table (trim last) p := by
  have hlongest : ∀ entry, Longest modelPrefixes (trim last) entry ↔ Longest table (trim last) entry := fun entry =>
    ⟨.of_perm htable.symm, .of_perm htable⟩
  simp only [ofLast?, Option.or_eq_some_iff, byPrefix?_eq_some modelPrefixes_nodup, byPrefix?_eq_none, byKeyword?,
    find?_contains, LastSuggests, hlongest, htable.mem_iff]

/-- Of the segments of a model's path, ASCII letters small, the leftmost one before the last that names a vendor decides.
    If none does, the last one is matched by the longest table entry that begins it and then by the first keyword in it.
    In whatever order the table stands, there is one longest entry at most, and the search finds it. Neither the case of
    ASCII letters nor blanks around the name matter. -/
theorem inferred_from_path (htable : table.Perm modelPrefixes) (model : String) :
    (∃ front last, splitBy (· == '/') (model.toList.map Char.toLower) = front ++ [last] ∧
      ∀ p, infer? model = some p ↔
        Leads front p ∨ (∀ segment ∈ front, ∀ q, ¬Names segment q) ∧ LastSuggests table (trim last) p) ∧
    (∀ name e entry, Longest table name e → Longest table name entry → e = entry) ∧
    (∀ name, byPrefix? table name = byPrefix? modelPrefixes name) ∧
    ∀ other, normalName other = normalName model → infer? other = infer? model := by
  have hnodup : (table.map Prod.fst).Nodup := (htable.map Prod.fst).nodup_iff.mpr modelPrefixes_nodup
  refine ⟨?_, fun name e entry he hentry => he.unique hnodup hentry, fun name => ?_, fun other hother => ?_⟩
  · obtain ⟨front, last, hpieces, -⟩ := exists_last_piece (· == '/') (model.toList.map Char.toLower)
    refine ⟨front, last, hpieces, fun p => ?_⟩
    rw [infer?, hpieces, ofSegments?_concat, Option.or_eq_some_iff, findSome?_vendor?, ofLast?_eq_some htable,
      List.findSome?_eq_none_iff]
    simp only [vendor?_eq_none]
  · refine Option.ext fun p => ?_
    rw [byPrefix?_eq_some hnodup, byPrefix?_eq_some modelPrefixes_nodup]
    exact exists_congr fun entry => and_congr_left fun _ => ⟨.of_perm htable, .of_perm htable.symm⟩
  · rw [infer?_normalName other, infer?_normalName model, hother]

/-- The first segment names no vendor that counts, and the second one decides, whatever the last one begins with. -/
theorem inferred_from_path_grok : modelPrefixes.reverse.Perm modelPrefixes ∧
    infer? "unspecified/ Grok/gpt-4" = some .xai ∧
    infer? "  UNSPECIFIED/ GROK/GPT-4 " = infer? "unspecified/ Grok/gpt-4" := by
  have htable : modelPrefixes.reverse.Perm modelPrefixes := List.reverse_perm modelPrefixes
  obtain ⟨⟨front, last, hpieces, hinfer⟩, -, -, hsame⟩ := inferred_from_path htable "unspecified/ Grok/gpt-4"
  have hsplit : splitBy (· == '/') ("unspecified/ Grok/gpt-4".toList.map Char.toLower) =
      ["unspecified".toList, " grok".toList] ++ ["gpt-4".toList] := by decide +kernel
  obtain ⟨rfl, -⟩ := List.append_inj' (hpieces.symm.trans hsplit) rfl
  refine ⟨htable, (hinfer .xai).mpr (.inl ⟨["unspecified".toList], " grok".toList, [], rfl, ?_, ?_⟩), ?_⟩
  · exact List.forall_mem_singleton.mpr (vendor?_eq_none.mp (by decide +kernel))
  · exact vendor?_eq_some.mp (by decide +kernel)
  · exact hsame _ (by decide +kernel)

end Provider
end PromptForm
