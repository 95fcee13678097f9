import Mathlib

/-!
# Tables of independent machines

A demultiplexer keeps one machine per key and hands every input to the machine
of its own key, creating or dropping the entry as the machine asks.  The
outputs are tagged with the key they came from.

The two projection theorems say that the machines do not interfere: what one
key emits, and the entry it ends with, depend only on that key's own inputs in
their own order.
-/

namespace Muxio.Transition

open Std

universe u v w x

variable {κ : Type u} {σ : Type v} {ι : Type w} {ω : Type x}

/-- One step of the machine stored under a key; `none` stands for an absent
entry, before and after the step. -/
abbrev EntryStep (σ : Type v) (ι : Type w) (ω : Type x) := Option σ → ι → List ω × Option σ

/-- Run the machine of a single key. -/
def runEntry (step : EntryStep σ ι ω) : Option σ → List ι → List ω × Option σ
  | entry, [] => ([], entry)
  | entry, input :: rest =>
      let first := step entry input
      let second := runEntry step first.2 rest
      (first.1 ++ second.1, second.2)

@[simp]
theorem runEntry_nil (step : EntryStep σ ι ω) (entry : Option σ) :
    runEntry step entry [] = ([], entry) :=
  rfl

theorem runEntry_cons (step : EntryStep σ ι ω) (entry : Option σ) (input : ι) (rest : List ι) :
    runEntry step entry (input :: rest) =
      ((step entry input).1 ++ (runEntry step (step entry input).2 rest).1,
        (runEntry step (step entry input).2 rest).2) :=
  rfl

theorem runEntry_append (step : EntryStep σ ι ω) (entry : Option σ) (first second : List ι) :
    runEntry step entry (first ++ second) =
      ((runEntry step entry first).1 ++ (runEntry step (runEntry step entry first).2 second).1,
        (runEntry step (runEntry step entry first).2 second).2) := by
  induction first generalizing entry with
  | nil => simp
  | cons input rest ih => simp [runEntry_cons, ih, List.append_assoc]

private theorem filter_tagged_eq [DecidableEq κ] (selected : κ) (outputs : List ω) :
    ((outputs.map (Prod.mk selected)).filter fun tagged => tagged.1 = selected) =
      outputs.map (Prod.mk selected) := by
  apply List.filter_eq_self.mpr
  simp

private theorem filter_tagged_ne [DecidableEq κ] {key selected : κ} (different : key ≠ selected)
    (outputs : List ω) :
    ((outputs.map (Prod.mk key)).filter fun tagged => tagged.1 = selected) = [] := by
  apply List.filter_eq_nil_iff.mpr
  simp [different]

/-! ## Interleaved sources -/

section Sources

variable {α : Type w} {β : Type x} [DecidableEq κ] {sources : List α} {key : α → κ}
  {emit : α → List β} (tag : β → κ)

/-- A key that no source uses selects nothing. -/
theorem filter_flatMap_absent (tagged : ∀ source ∈ sources, ∀ out ∈ emit source,
    tag out = key source) {selected : κ} (absent : selected ∉ sources.map key) :
    ((sources.flatMap emit).filter fun out => tag out = selected) = [] := by
  refine List.filter_eq_nil_iff.mpr fun out member => ?_
  rcases List.mem_flatMap.mp member with ⟨source, sourceMem, outMem⟩
  rw [decide_eq_true_eq, tagged source sourceMem out outMem]
  rintro rfl
  exact absent (List.mem_map_of_mem sourceMem)

/-- The key of a source selects that source's outputs when keys are distinct. -/
theorem filter_flatMap_eq (tagged : ∀ source ∈ sources, ∀ out ∈ emit source,
    tag out = key source) (distinct : (sources.map key).Nodup) {source : α}
    (member : source ∈ sources) :
    ((sources.flatMap emit).filter fun out => tag out = key source) = emit source := by
  induction sources with
  | nil => contradiction
  | cons first rest ih =>
      have restTagged : ∀ other ∈ rest, ∀ out ∈ emit other, tag out = key other :=
        fun other otherMem => tagged other (List.mem_cons_of_mem _ otherMem)
      rw [List.map_cons, List.nodup_cons] at distinct
      rw [List.flatMap_cons, List.filter_append]
      rcases List.mem_cons.mp member with rfl | later
      · rw [filter_flatMap_absent tag restTagged distinct.1, List.append_nil]
        refine List.filter_eq_self.mpr fun out outMem => ?_
        exact decide_eq_true (tagged source List.mem_cons_self out outMem)
      · rw [ih restTagged distinct.2 later, List.filter_eq_nil_iff.mpr]
        · rfl
        · intro out outMem same
          rw [decide_eq_true_eq, tagged first List.mem_cons_self out outMem] at same
          exact distinct.1 (same ▸ List.mem_map_of_mem later)

/-- Lists that agree on every key are permutations of each other. -/
theorem perm_of_filter_eq [DecidableEq β] {first second : List β}
    (agree : ∀ selected, (first.filter fun out => tag out = selected) =
      second.filter fun out => tag out = selected) : first.Perm second := by
  apply List.perm_iff_count.mpr
  intro out
  have counted : ∀ outs : List β,
      (outs.filter fun other => tag other = tag out).count out = outs.count out :=
    fun outs => List.count_filter (by simp)
  rw [← counted first, agree, counted]

end Sources

/-! ## Tables -/

section Table

variable [Ord κ] [TransOrd κ]

/-- Replace the entry of one key; `none` removes it. -/
def setEntry (table : ExtTreeMap κ σ compare) (key : κ) : Option σ → ExtTreeMap κ σ compare
  | some entry => table.insert key entry
  | none => table.erase key

theorem empty_entry_ne {key : κ} {entry : σ} :
    (∅ : ExtTreeMap κ σ compare)[key]? ≠ some entry := by
  rw [ExtTreeMap.getElem?_empty]
  exact (Option.some_ne_none entry).symm

theorem getElem?_setEntry [LawfulEqOrd κ] [DecidableEq κ] (table : ExtTreeMap κ σ compare)
    (key other : κ)
    (entry : Option σ) :
    (setEntry table key entry)[other]? = if key = other then entry else table[other]? := by
  cases entry <;> simp [setEntry, ExtTreeMap.getElem?_insert, ExtTreeMap.getElem?_erase]

/-- Run a whole table of machines on interleaved inputs. -/
def demux (step : EntryStep σ ι ω) (key : ι → κ) :
    ExtTreeMap κ σ compare → List ι → List (κ × ω) × ExtTreeMap κ σ compare
  | table, [] => ([], table)
  | table, input :: rest =>
      let first := step table[key input]? input
      let second := demux step key (setEntry table (key input) first.2) rest
      (first.1.map (Prod.mk (key input)) ++ second.1, second.2)

@[simp]
theorem demux_nil (step : EntryStep σ ι ω) (key : ι → κ) (table : ExtTreeMap κ σ compare) :
    demux step key table [] = ([], table) :=
  rfl

theorem demux_cons (step : EntryStep σ ι ω) (key : ι → κ) (table : ExtTreeMap κ σ compare)
    (input : ι) (rest : List ι) :
    demux step key table (input :: rest) =
      ((step table[key input]? input).1.map (Prod.mk (key input)) ++
          (demux step key (setEntry table (key input) (step table[key input]? input).2) rest).1,
        (demux step key (setEntry table (key input) (step table[key input]? input).2) rest).2) :=
  rfl

theorem demux_append (step : EntryStep σ ι ω) (key : ι → κ) (table : ExtTreeMap κ σ compare)
    (first second : List ι) :
    demux step key table (first ++ second) =
      ((demux step key table first).1 ++ (demux step key (demux step key table first).2 second).1,
        (demux step key (demux step key table first).2 second).2) := by
  induction first generalizing table with
  | nil => simp
  | cons input rest ih => simp [demux_cons, ih, List.append_assoc]

variable [LawfulEqOrd κ] [DecidableEq κ]

/-- The entry a key ends with is the one its own inputs lead to. -/
theorem demux_entry (step : EntryStep σ ι ω) (key : ι → κ) (table : ExtTreeMap κ σ compare)
    (inputs : List ι) (selected : κ) :
    (demux step key table inputs).2[selected]? =
      (runEntry step table[selected]? (inputs.filter fun input => key input = selected)).2 := by
  induction inputs generalizing table with
  | nil => simp
  | cons input rest ih =>
      rw [demux_cons, ih, getElem?_setEntry]
      by_cases same : key input = selected
      · subst same
        simp [runEntry_cons]
      · simp [same]

/-- The outputs tagged with a key are those its own inputs produce. -/
theorem demux_outputs (step : EntryStep σ ι ω) (key : ι → κ) (table : ExtTreeMap κ σ compare)
    (inputs : List ι) (selected : κ) :
    ((demux step key table inputs).1.filter fun tagged => tagged.1 = selected) =
      (runEntry step table[selected]?
        (inputs.filter fun input => key input = selected)).1.map (Prod.mk selected) := by
  induction inputs generalizing table with
  | nil => simp
  | cons input rest ih =>
      rw [demux_cons, List.filter_append, ih, getElem?_setEntry]
      by_cases same : key input = selected
      · subst same
        rw [filter_tagged_eq]
        simp [runEntry_cons]
      · rw [filter_tagged_ne same]
        simp [same]

/-- Inputs that all go to one key only see its entry. -/
theorem demux_of_key (step : EntryStep σ ι ω) {key : ι → κ} (table : ExtTreeMap κ σ compare)
    {inputs : List ι} {selected : κ} (same : ∀ input ∈ inputs, key input = selected) :
    (demux step key table inputs).1 =
      (runEntry step table[selected]? inputs).1.map (Prod.mk selected) := by
  induction inputs generalizing table with
  | nil => rfl
  | cons input rest ih =>
      obtain rfl := same input List.mem_cons_self
      rw [demux_cons, ih _ fun other member => same other (List.mem_cons_of_mem _ member),
        getElem?_setEntry, if_pos rfl, runEntry_cons, List.map_append]

end Table

end Muxio.Transition
