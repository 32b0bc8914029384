import PromptForm.Pattern.Basic

/-! # What patterns match

The matches of a pattern as a relation between places (`Pattern.Takes`), and a search that finds just these
(`Pattern.mem_ends_iff`). The search drops places that it has met before. It knows a place by the number of
characters that follow, which is enough since all its places are places of one text (`Place.Leads`). For the same
reason there are only so many places, and a search for any number of repetitions has met them all after as many
rounds. -/

namespace PromptForm

/-! ### Places of one text -/

/-- The second place is the first or one further on in the same text. -/
def Place.Leads (p q : Place) : Prop := ∃ taken, p.rest = taken ++ q.rest ∧ q.before = taken.getLast?.or p.before

namespace Place.Leads
variable {p q r : Place}

theorem refl (p : Place) : p.Leads p := ⟨[], rfl, rfl⟩

theorem trans (hpq : p.Leads q) (hqr : q.Leads r) : p.Leads r := by
  obtain ⟨taken, hrest, hbefore⟩ := hpq
  obtain ⟨more, hrest', hbefore'⟩ := hqr
  refine ⟨taken ++ more, by rw [hrest, hrest', List.append_assoc], ?_⟩
  rw [hbefore', hbefore, List.getLast?_append, Option.or_assoc]

theorem length_le (h : p.Leads q) : q.rest.length ≤ p.rest.length := by
  obtain ⟨taken, hrest, -⟩ := h
  rw [hrest, List.length_append]
  exact Nat.le_add_left _ _

/-- In one text a place is known by what follows it. -/
theorem eq_of_length (hq : p.Leads q) (hr : p.Leads r) (h : q.rest.length = r.rest.length) : q = r := by
  obtain ⟨taken, hrest, hbefore⟩ := hq
  obtain ⟨taken', hrest', hbefore'⟩ := hr
  obtain ⟨htaken, hsame⟩ := List.append_inj' (hrest ▸ hrest' : taken ++ q.rest = taken' ++ r.rest) h
  obtain ⟨qbefore, qrest⟩ := q
  obtain ⟨rbefore, rrest⟩ := r
  rw [Place.mk.injEq]
  exact ⟨hbefore.trans (htaken ▸ hbefore'.symm), hsame⟩

end Place.Leads

namespace Pattern

/-- So many steps one after another. -/
def Steps (step : Place → Place → Prop) : Nat → Place → Place → Prop
  | 0, a, b => a = b
  | n + 1, a, b => ∃ m, step a m ∧ Steps step n m b

/-- A match of the pattern begins at the first place and ends at the second. -/
def Takes : Pattern → Place → Place → Prop
  | .empty, a, b => a = b
  | .one set, a, b => ∃ c, a.rest = c :: b.rest ∧ b.before = some c ∧ set.has c = true
  | .anchor k, a, b => a = b ∧ k.holds a = true
  | .seq p q, a, b => ∃ m, Takes p a m ∧ Takes q m b
  | .alt p q, a, b => Takes p a b ∨ Takes q a b
  | .repeated p min max, a, b => ∃ n, min ≤ n ∧ (∀ m, max = some m → n ≤ Nat.max min m) ∧ Steps (Takes p) n a b

section Steps
variable {step : Place → Place → Prop} {a b c : Place}

theorem Steps.add {m n : Nat} (hab : Steps step m a b) (hbc : Steps step n b c) : Steps step (m + n) a c := by
  induction m generalizing a with
  | zero =>
    cases hab
    rwa [Nat.zero_add]
  | succ m ih =>
    obtain ⟨a', hstep, hrest⟩ := hab
    rw [Nat.succ_add]
    exact ⟨a', hstep, ih hrest⟩

theorem Steps.split {m n : Nat} (h : Steps step (m + n) a c) : ∃ b, Steps step m a b ∧ Steps step n b c := by
  induction m generalizing a with
  | zero => exact ⟨a, rfl, by rwa [Nat.zero_add] at h⟩
  | succ m ih =>
    rw [Nat.succ_add] at h
    obtain ⟨a', hstep, hrest⟩ := h
    obtain ⟨b, hab, hbc⟩ := ih hrest
    exact ⟨b, ⟨a', hstep, hab⟩, hbc⟩

theorem Steps.leads (hstep : ∀ a b, step a b → a.Leads b) {n : Nat} (h : Steps step n a b) : a.Leads b := by
  induction n generalizing a with
  | zero => exact (show a = b from h) ▸ .refl a
  | succ n ih =>
    obtain ⟨a', hfirst, hrest⟩ := h
    exact (hstep a a' hfirst).trans (ih hrest)

end Steps

theorem Takes.leads : ∀ {p : Pattern} {a b : Place}, Takes p a b → a.Leads b
  | .empty, a, _, h => (show a = _ from h) ▸ .refl a
  | .one _, _, _, ⟨c, hrest, hbefore, _⟩ => ⟨[c], hrest, hbefore⟩
  | .anchor _, a, _, h => h.1 ▸ .refl a
  | .seq _ _, _, _, ⟨_, hfirst, hsecond⟩ => hfirst.leads.trans hsecond.leads
  | .alt _ _, _, _, h => h.elim Takes.leads Takes.leads
  | .repeated p _ _, _, _, ⟨_, _, _, h⟩ => h.leads fun _ _ h => Takes.leads (p := p) h

/-! ### Places left out -/

variable {step : Place → List Place} {p a b : Place} {ps seen fresh : List Place}

theorem mem_of_mem_distinct {q : Place} : ∀ {ps : List Place}, q ∈ distinct ps → q ∈ ps
  | [], h => h
  | p :: ps, h => by
    rcases List.mem_cons.mp h with rfl | h
    · exact List.mem_cons_self
    · exact List.mem_cons_of_mem p (mem_of_mem_distinct (List.mem_filter.mp h).1)

/-- In one text nothing is lost by leaving out the places that occurred before. -/
theorem mem_distinct (hps : ∀ q ∈ ps, p.Leads q) : a ∈ distinct ps ↔ a ∈ ps := by
  refine ⟨mem_of_mem_distinct, fun h => ?_⟩
  induction ps with
  | nil => exact h
  | cons q ps ih =>
    obtain ⟨hq, hps⟩ := List.forall_mem_cons.mp hps
    rcases List.mem_cons.mp h with rfl | h
    · exact List.mem_cons_self
    · by_cases heq : a.rest.length = q.rest.length
      · rw [(hps a h).eq_of_length hq heq]
        exact List.mem_cons_self
      · exact List.mem_cons_of_mem q (List.mem_filter.mpr ⟨ih hps h, by simpa using heq⟩)

theorem nodup_distinct : ∀ ps : List Place, ((distinct ps).map (·.rest.length)).Nodup
  | [] => List.nodup_nil
  | p :: ps => by
    refine List.nodup_cons.mpr ⟨fun h => ?_, ?_⟩
    · obtain ⟨q, hq, heq⟩ := List.mem_map.mp h
      simpa [heq] using (List.mem_filter.mp hq).2
    · exact (nodup_distinct ps).sublist (List.filter_sublist.map _)

theorem mem_flatMap_leads (hstep : ∀ a, ∀ b ∈ step a, a.Leads b) (hps : ∀ q ∈ ps, p.Leads q) :
    ∀ q ∈ ps.flatMap step, p.Leads q := fun q hq => by
  obtain ⟨a, ha, hqa⟩ := List.mem_flatMap.mp hq
  exact (hps a ha).trans (hstep a q hqa)

theorem mem_times (hstep : ∀ a, ∀ b ∈ step a, a.Leads b) (n : Nat) (hps : ∀ q ∈ ps, p.Leads q) :
    b ∈ times step n ps ↔ ∃ a ∈ ps, Steps (fun a b => b ∈ step a) n a b := by
  induction n generalizing ps with
  | zero => simp [times, Steps]
  | succ n ih =>
    have hnext := mem_flatMap_leads hstep hps
    rw [times, ih fun q hq => hnext q (mem_of_mem_distinct hq)]
    constructor
    · rintro ⟨m, hm, hsteps⟩
      obtain ⟨a, ha, hma⟩ := List.mem_flatMap.mp (mem_of_mem_distinct hm)
      exact ⟨a, ha, m, hma, hsteps⟩
    · rintro ⟨a, ha, m, hma, hsteps⟩
      exact ⟨m, (mem_distinct hnext).mpr (List.mem_flatMap.mpr ⟨a, ha, hma⟩), hsteps⟩

theorem nodup_times (n : Nat) (h : (ps.map (·.rest.length)).Nodup) :
    ((times step n ps).map (·.rest.length)).Nodup := by
  induction n generalizing ps with
  | zero => exact h
  | succ n ih => exact ih (nodup_distinct _)

/-! ### The search -/

/-- What a search has met: places of one text, each once. What can be reached from them in one step has been met as
    well, except from the fresh ones. -/
structure Searched (step : Place → List Place) (p : Place) (seen fresh : List Place) : Prop where
  leads : ∀ a ∈ seen, p.Leads a
  once : (seen.map (·.rest.length)).Nodup
  subset : fresh ⊆ seen
  closed : ∀ a ∈ seen, ∀ b ∈ step a, b ∈ seen ∨ a ∈ fresh

/-- The places that a round of the search adds. -/
def newPlaces (step : Place → List Place) (seen fresh : List Place) : List Place :=
  (distinct (fresh.flatMap step)).filter fun p => !seen.any (·.rest.length == p.rest.length)

theorem reached_succ (n : Nat) : reached step (n + 1) seen fresh =
    if (newPlaces step seen fresh).isEmpty then seen
    else reached step n (seen ++ newPlaces step seen fresh) (newPlaces step seen fresh) := rfl

theorem subset_reached (n : Nat) : seen ⊆ reached step n seen fresh := by
  induction n generalizing seen fresh with
  | zero => exact List.Subset.refl _
  | succ n ih =>
    rw [reached_succ]
    split
    · exact List.Subset.refl _
    · exact List.Subset.trans (List.subset_append_left _ _) ih

theorem mem_newPlaces_of_mem {q : Place} (h : q ∈ newPlaces step seen fresh) : q ∈ fresh.flatMap step :=
  mem_of_mem_distinct (List.mem_filter.mp h).1

namespace Searched
variable (hstep : ∀ a, ∀ b ∈ step a, a.Leads b) (h : Searched step p seen fresh)
include hstep h

theorem leads_of_step (ha : a ∈ seen) (hb : b ∈ step a) : p.Leads b := (h.leads a ha).trans (hstep a b hb)

/-- A step leads to what has been met, or to what the next round adds. -/
theorem mem_or_new (ha : a ∈ seen) (hb : b ∈ step a) : b ∈ seen ∨ b ∈ newPlaces step seen fresh := by
  rcases h.closed a ha b hb with hb' | hfresh
  · exact .inl hb'
  · by_cases hmet : ∃ c ∈ seen, c.rest.length = b.rest.length
    · obtain ⟨c, hc, hlength⟩ := hmet
      have heq : c = b := (h.leads c hc).eq_of_length (h.leads_of_step hstep ha hb) hlength
      exact .inl (heq ▸ hc)
    · have hall : ∀ q ∈ fresh.flatMap step, p.Leads q :=
        mem_flatMap_leads hstep fun q hq => h.leads q (h.subset hq)
      refine .inr (List.mem_filter.mpr ⟨(mem_distinct hall).mpr (List.mem_flatMap.mpr ⟨a, hfresh, hb⟩), ?_⟩)
      simpa using hmet

theorem next : Searched step p (seen ++ newPlaces step seen fresh) (newPlaces step seen fresh) where
  leads q hq := by
    rcases List.mem_append.mp hq with hq | hq
    · exact h.leads q hq
    · obtain ⟨c, hc, hqc⟩ := List.mem_flatMap.mp (mem_newPlaces_of_mem hq)
      exact h.leads_of_step hstep (h.subset hc) hqc
  once := by
    rw [List.map_append, List.nodup_append]
    refine ⟨h.once, (nodup_distinct _).sublist (List.filter_sublist.map _), fun m hm n hn heq => ?_⟩
    obtain ⟨q, hq, rfl⟩ := List.mem_map.mp hm
    obtain ⟨r, hr, rfl⟩ := List.mem_map.mp hn
    have hnew := (List.mem_filter.mp hr).2
    simp only [Bool.not_eq_true', List.any_eq_false, beq_iff_eq] at hnew
    exact hnew q hq heq
  subset := List.subset_append_right _ _
  closed c hc d hd := by
    rcases List.mem_append.mp hc with hc | hc
    · exact .inl (List.mem_append.mpr (h.mem_or_new hstep hc hd))
    · exact .inr hc

omit hstep in
/-- There are no more places than characters that may follow. -/
theorem length_le : seen.length ≤ p.rest.length + 1 := by
  have hsubset : seen.map (·.rest.length) ⊆ List.range (p.rest.length + 1) := fun n hn => by
    obtain ⟨q, hq, rfl⟩ := List.mem_map.mp hn
    exact List.mem_range.mpr (Nat.lt_succ_of_le (h.leads q hq).length_le)
  simpa using h.once.length_le_of_subset hsubset

/-- What can be reached in few steps is found, and everything is if there are rounds for all places. -/
theorem mem_reached {j n : Nat} (ha : a ∈ seen) (hsteps : Steps (fun a b => b ∈ step a) j a b)
    (henough : j ≤ n ∨ p.rest.length + 1 < seen.length + n) : b ∈ reached step n seen fresh := by
  induction j generalizing n seen fresh a with
  | zero =>
    cases hsteps
    exact subset_reached n ha
  | succ j ih =>
    obtain ⟨c, hac, hrest⟩ := hsteps
    -- Either the next place was found before, or it is new. A round that finds new places leaves fewer to be found,
    -- and there are no more of them than `length_le` says.
    rcases h.mem_or_new hstep ha hac with hc | hc
    · exact ih h hc hrest (henough.imp_left Nat.le_of_succ_le)
    · have hpositive : 0 < (newPlaces step seen fresh).length := List.length_pos_of_mem hc
      cases n with
      | zero =>
        have hlength := h.length_le
        omega
      | succ n =>
        rw [reached_succ, if_neg (by simpa using List.ne_nil_of_mem hc)]
        refine ih (h.next hstep) (List.mem_append_right _ hc) hrest (henough.imp Nat.le_of_succ_le_succ fun hlt => ?_)
        rw [List.length_append]
        omega

end Searched

theorem steps_of_mem_reached {n : Nat} (hsubset : fresh ⊆ seen) (h : b ∈ reached step n seen fresh) :
    ∃ a ∈ seen, ∃ j ≤ n, Steps (fun a b => b ∈ step a) j a b := by
  induction n generalizing seen fresh with
  | zero => exact ⟨b, h, 0, Nat.le_refl 0, rfl⟩
  | succ n ih =>
    rw [reached_succ] at h
    split at h
    · exact ⟨b, h, 0, Nat.zero_le _, rfl⟩
    · obtain ⟨a, ha, j, hj, hsteps⟩ := ih (List.subset_append_right _ _) h
      rcases List.mem_append.mp ha with ha | ha
      · exact ⟨a, ha, j, Nat.le_succ_of_le hj, hsteps⟩
      · obtain ⟨c, hc, hac⟩ := List.mem_flatMap.mp (mem_newPlaces_of_mem ha)
        exact ⟨c, hsubset hc, j + 1, Nat.succ_le_succ hj, a, hac, hsteps⟩

/-! ### Matches -/

/-- A search of repetitions finds what is reached in the number of steps that it asks for. -/
theorem mem_repeated_ends (hstep : ∀ a, ∀ b ∈ step a, a.Leads b) (min : Nat) (max : Option Nat) :
    b ∈ reached step (match max with | some m => m - min | none => a.rest.length + 1) (times step min [a])
        (times step min [a]) ↔
      ∃ n, min ≤ n ∧ (∀ m, max = some m → n ≤ Nat.max min m) ∧ Steps (fun a b => b ∈ step a) n a b := by
  -- The search begins with what the least number of steps reaches.
  have hmem : ∀ c, c ∈ times step min [a] ↔ Steps (fun a b => b ∈ step a) min a c := fun c => by
    rw [mem_times hstep min (List.forall_mem_singleton.mpr (.refl a))]
    simp
  have hstart : Searched step a (times step min [a]) (times step min [a]) :=
    { leads := fun c hc => Steps.leads hstep ((hmem c).mp hc)
      once := nodup_times min (by simp)
      subset := List.Subset.refl _
      closed := fun c hc _ _ => .inr hc }
  constructor
  · intro h
    obtain ⟨c, hc, j, hj, hsteps⟩ := steps_of_mem_reached (List.Subset.refl _) h
    refine ⟨min + j, Nat.le_add_right _ _, ?_, ((hmem c).mp hc).add hsteps⟩
    rintro m rfl
    have hj : j ≤ m - min := hj
    show min + j ≤ max min m
    omega
  · rintro ⟨n, hmin, hmax, hsteps⟩
    obtain ⟨j, rfl⟩ := Nat.exists_eq_add_of_le hmin
    obtain ⟨c, hfirst, hrest⟩ := hsteps.split
    have hc := (hmem c).mpr hfirst
    refine hstart.mem_reached hstep hc hrest ?_
    cases max with
    | none =>
      have hpositive := List.length_pos_of_mem hc
      exact .inr (by dsimp only; omega)
    | some m =>
      have hj : min + j ≤ Nat.max min m := hmax m rfl
      exact .inl (by simp only [Nat.max_def] at hj; dsimp only; split at hj <;> omega)

/-- The search finds the ends of matches, all of them and nothing else. -/
theorem mem_ends_iff : ∀ {p : Pattern} {a b : Place}, b ∈ p.ends a ↔ Takes p a b
  | .empty, a, b => List.mem_singleton.trans eq_comm
  | .one set, ⟨before, rest⟩, ⟨before', rest'⟩ => by
    cases rest with
    | nil => simp [ends, Takes]
    | cons c cs =>
      simp only [ends, Takes]
      split
      · next hc =>
        simp only [List.mem_singleton, Place.mk.injEq, List.cons.injEq]
        constructor
        · rintro ⟨rfl, rfl⟩
          exact ⟨c, ⟨rfl, rfl⟩, rfl, hc⟩
        · rintro ⟨_, ⟨rfl, rfl⟩, rfl, -⟩
          exact ⟨rfl, rfl⟩
      · next hc =>
        refine iff_of_false List.not_mem_nil ?_
        rintro ⟨_, hrest, -, hset⟩
        cases hrest
        exact hc hset
  | .anchor k, a, b => by
    simp only [ends, Takes]
    split
    · next hk => simp [hk, eq_comm]
    · next hk => simp [hk]
  | .seq p q, a, b => by
    -- Places are told apart by what is left of the text, which is enough as one place leads to all of them.
    have hall : ∀ c ∈ (p.ends a).flatMap q.ends, a.Leads c :=
      mem_flatMap_leads (fun _ _ h => (mem_ends_iff.mp h).leads) fun c hc => (mem_ends_iff.mp hc).leads
    simp only [ends, Takes, mem_distinct hall, List.mem_flatMap, mem_ends_iff]
  | .alt p q, a, b => by
    have hall : ∀ c ∈ p.ends a ++ q.ends a, a.Leads c := fun c hc =>
      (List.mem_append.mp hc).elim (fun h => (mem_ends_iff.mp h).leads) fun h => (mem_ends_iff.mp h).leads
    simp only [ends, Takes, mem_distinct hall, List.mem_append, mem_ends_iff]
  | .repeated p min max, a, b => by
    have hrel : (fun a b => b ∈ p.ends a) = Takes p := by
      funext a b
      exact propext mem_ends_iff
    have hstep : ∀ a, ∀ b ∈ p.ends a, a.Leads b := fun _ _ h => (mem_ends_iff.mp h).leads
    have hrepeated := mem_repeated_ends (a := a) (b := b) hstep min max
    rw [hrel] at hrepeated
    exact hrepeated

end Pattern
end PromptForm
