import Mathlib.Data.List.Basic

/-
  Lists of entries with keys. An item is stored in the first
  entry with its key, and what is reported about it depends
  on that entry alone. After any number of items, each entry
  is then as the items with its key made it, and the reports
  with one key are those of the items with that key.

  Key definitions include:
    * `KeyedFold`
    * `KeyedFold.store`
    * `KeyedFold.storeAll`
    * `KeyedFold.result`
    * `KeyedFold.reports`
    * `KeyedFold.reportsAfter`

  Key theorems include:
    * `KeyedFold.storeAll_eq_result`
    * `KeyedFold.storeAll_eq_mapIdx`
    * `KeyedFold.reports_eq_reportsAfter`
    * `KeyedFold.storeAll_congr`
    * `KeyedFold.filter_reports`
-/

------------------------------------------------------------
-- Storing by Key
------------------------------------------------------------

namespace Foundations

/-
  How an item of `α` is stored in an entry of `β`. Storing
  does not change the key of the entry.
-/
structure KeyedFold (κ α β : Type) where
  keyOf : α → κ
  entryKey : β → κ
  step : β → α → β
  entryKey_step : ∀ e a, entryKey (step e a) = entryKey e

namespace KeyedFold

variable {κ α β : Type}
variable [DecidableEq κ]
variable (K : KeyedFold κ α β)

/- The items with a key, in order. -/
def ofKey
    (k : κ)
    (as : List α) :
    List α :=
  as.filter (fun a => K.keyOf a = k)

/- The first entry with a key. -/
def find
    (entries : List β)
    (k : κ) :
    Option β :=
  entries.find? (fun e => K.entryKey e = k)

/- Store an item in the first entry with its key. -/
def store
    (a : α) :
    List β → List β
| [] => []
| e :: entries =>
    if K.entryKey e = K.keyOf a then
      K.step e a :: entries
    else
      e :: store a entries

/- Store items one after the other. -/
def storeAll
    (as : List α)
    (entries : List β) :
    List β :=
  as.foldl (fun entries a => K.store a entries) entries

/- An entry after all the items with its key. -/
def entryAfter
    (as : List α)
    (e : β) :
    β :=
  (K.ofKey (K.entryKey e) as).foldl K.step e

/-
  The entries after the items, where no entry with one of
  the keys `seen` is the first one with its key.
-/
def resultFrom
    (as : List α) :
    List κ → List β → List β
| _, [] => []
| seen, e :: entries =>
    (if K.entryKey e ∈ seen then e else K.entryAfter as e) ::
      resultFrom as (K.entryKey e :: seen) entries

/-
  The entries after the items: the first entry with each key
  is as the items with that key made it, and the others are
  as they were.
-/
def result
    (as : List α)
    (entries : List β) :
    List β :=
  K.resultFrom as [] entries

/- The entries in front of the first one do not matter. -/
theorem store_append
    {a : α}
    {before : List β}
    (hBefore : ∀ e ∈ before, K.entryKey e ≠ K.keyOf a)
    (after : List β) :
    K.store a (before ++ after) =
      before ++ K.store a after := by
  induction before with
  | nil => rfl
  | cons e before ih =>
      have hHead := hBefore e (by simp)
      have hTail :=
        ih (fun e' he' =>
          hBefore e' (List.mem_cons_of_mem _ he'))
      simp only [List.cons_append, store, if_neg hHead,
        hTail]

/- An item without an entry changes nothing. -/
theorem store_of_not_mem
    {a : α}
    {entries : List β}
    (hNone : ∀ e ∈ entries, K.entryKey e ≠ K.keyOf a) :
    K.store a entries = entries := by
  have hAppend := K.store_append hNone []
  simpa [store] using hAppend

/- The first entry takes the items with its key. -/
theorem storeAll_cons
    (as : List α)
    (e : β)
    (entries : List β) :
    K.storeAll as (e :: entries) =
      K.entryAfter as e ::
        K.storeAll
          (as.filter (fun a => K.keyOf a ≠ K.entryKey e))
          entries := by
  induction as generalizing e entries with
  | nil => rfl
  | cons a as ih =>
      rw [storeAll, List.foldl_cons, store]
      by_cases hKey : K.entryKey e = K.keyOf a
      · have hRest := ih (K.step e a) entries
        rw [if_pos hKey]
        unfold storeAll at hRest
        rw [hRest]
        simp [entryAfter, ofKey, storeAll, hKey,
          K.entryKey_step]
      · have hRest := ih e (K.store a entries)
        have hKey' : ¬ K.keyOf a = K.entryKey e :=
          fun hEq => hKey hEq.symm
        rw [if_neg hKey]
        unfold storeAll at hRest
        rw [hRest]
        simp [entryAfter, ofKey, storeAll, hKey']

/- Items with keys that are seen already do not count. -/
theorem storeAll_filter
    (as : List α)
    (seen : List κ)
    (entries : List β) :
    K.storeAll (as.filter (fun a => K.keyOf a ∉ seen))
        entries =
      K.resultFrom as seen entries := by
  induction entries generalizing seen with
  | nil =>
      rw [resultFrom]
      generalize as.filter (fun a => K.keyOf a ∉ seen) = bs
      induction bs with
      | nil => rfl
      | cons b bs ih => exact ih
  | cons e entries ih =>
      rw [K.storeAll_cons, resultFrom,
        ← ih (K.entryKey e :: seen), List.filter_filter]
      have hRest :
          as.filter
              (fun a =>
                decide (K.keyOf a ≠ K.entryKey e) &&
                  decide (K.keyOf a ∉ seen)) =
            as.filter
              (fun a =>
                decide (K.keyOf a ∉ K.entryKey e :: seen)) := by
        apply List.filter_congr
        intro a _
        simp
      rw [hRest]
      congr 1
      unfold entryAfter ofKey
      rw [List.filter_filter]
      by_cases hSeen : K.entryKey e ∈ seen
      · rw [if_pos hSeen]
        have hNone :
            as.filter
                (fun a =>
                  decide (K.keyOf a = K.entryKey e) &&
                    decide (K.keyOf a ∉ seen)) = [] := by
          rw [List.filter_eq_nil_iff]
          intro a _ hBoth
          simp only [Bool.and_eq_true, decide_eq_true_eq]
            at hBoth
          exact hBoth.2 (hBoth.1 ▸ hSeen)
        rw [hNone]
        rfl
      · rw [if_neg hSeen]
        congr 1
        apply List.filter_congr
        intro a _
        by_cases hKey : K.keyOf a = K.entryKey e
        · simp [hKey, hSeen]
        · simp [hKey]

/- Each first entry is as its own items made it. -/
theorem storeAll_eq_result
    (as : List α)
    (entries : List β) :
    K.storeAll as entries = K.result as entries := by
  have hFilter := K.storeAll_filter as [] entries
  simpa [result] using hFilter

/- The same, where an entry's place tells if it is first. -/
theorem resultFrom_eq_mapIdx
    (as : List α)
    (seen : List κ)
    (entries : List β) :
    K.resultFrom as seen entries =
      entries.mapIdx
        (fun i e =>
          if K.entryKey e ∈ seen ∨
              K.entryKey e ∈
                (entries.take i).map K.entryKey then
            e
          else
            K.entryAfter as e) := by
  induction entries generalizing seen with
  | nil => rfl
  | cons e entries ih =>
      rw [resultFrom, ih, List.mapIdx_cons]
      congr 1
      · simp
      · refine List.mapIdx_eq_mapIdx_iff.mpr ?_
        intro i hLt
        congr 1
        simp only [List.mem_cons, List.take_succ_cons,
          List.map_cons, eq_iff_iff]
        constructor
        · rintro ((hHead | hSeen) | hTail)
          · exact Or.inr (Or.inl hHead)
          · exact Or.inl hSeen
          · exact Or.inr (Or.inr hTail)
        · rintro (hSeen | hHead | hTail)
          · exact Or.inl (Or.inr hSeen)
          · exact Or.inl (Or.inl hHead)
          · exact Or.inr hTail

theorem storeAll_eq_mapIdx
    (as : List α)
    (entries : List β) :
    K.storeAll as entries =
      entries.mapIdx
        (fun i e =>
          if K.entryKey e ∈
              (entries.take i).map K.entryKey then
            e
          else
            K.entryAfter as e) := by
  rw [K.storeAll_eq_result, result, K.resultFrom_eq_mapIdx]
  simp

/- Only the order of items with the same key matters. -/
theorem storeAll_congr
    {as bs : List α}
    (hSame : ∀ k, K.ofKey k as = K.ofKey k bs)
    (entries : List β) :
    K.storeAll as entries = K.storeAll bs entries := by
  rw [storeAll_eq_result, storeAll_eq_result]
  unfold result
  generalize ([] : List κ) = seen
  induction entries generalizing seen with
  | nil => rfl
  | cons e entries ih =>
      rw [resultFrom, resultFrom, ih, entryAfter, entryAfter,
        hSame]

/- Storing an item in the first entry with a key. -/
theorem find_store
    (a : α)
    (entries : List β)
    (k : κ) :
    K.find (K.store a entries) k =
      if K.keyOf a = k then
        (K.find entries k).map (fun e => K.step e a)
      else
        K.find entries k := by
  induction entries with
  | nil =>
      split <;> rfl
  | cons e entries ih =>
      unfold find at *
      rw [store]
      by_cases hHere : K.entryKey e = K.keyOf a
      · rw [if_pos hHere, List.find?_cons, List.find?_cons,
          K.entryKey_step, hHere]
        by_cases hKey : K.keyOf a = k
        · simp [hKey]
        · simp [hKey]
      · rw [if_neg hHere, List.find?_cons, List.find?_cons,
          ih]
        by_cases hKey : K.entryKey e = k
        · have hNe : ¬ K.keyOf a = k := by
            intro hEq
            exact hHere (hKey.trans hEq.symm)
          simp [hKey, hNe]
        · simp [hKey]

/- The first entry with a key, after any items. -/
theorem find_storeAll
    (as : List α)
    (entries : List β)
    (k : κ) :
    K.find (K.storeAll as entries) k =
      (K.find entries k).map
        (fun e => (K.ofKey k as).foldl K.step e) := by
  induction as generalizing entries with
  | nil =>
      simp [storeAll, ofKey]
  | cons a as ih =>
      have hRest := ih (K.store a entries)
      unfold storeAll at *
      rw [List.foldl_cons, hRest, K.find_store]
      by_cases hKey : K.keyOf a = k
      · simp only [hKey, if_true, ofKey, decide_true,
          List.filter_cons_of_pos, List.foldl_cons,
          Option.map_map]
        rfl
      · simp only [hKey, if_false, ofKey, decide_false,
          Bool.false_eq_true, not_false_eq_true,
          List.filter_cons_of_neg]

end KeyedFold

------------------------------------------------------------
-- Reports
------------------------------------------------------------

namespace KeyedFold

variable {κ α β γ : Type}
variable [DecidableEq κ]
variable (K : KeyedFold κ α β)
variable (report : Option β → α → List γ)

/- What is reported as items are stored one by one. -/
def reports :
    List β → List α → List γ
| _, [] => []
| entries, a :: as =>
    report (K.find entries (K.keyOf a)) a ++
      reports (K.store a entries) as

/-
  The same reports, each from the first entry as it was at
  the start and the earlier items with its key.
-/
def reportsAfter
    (entries : List β) :
    List α → List α → List γ
| _, [] => []
| before, a :: as =>
    report
        ((K.find entries (K.keyOf a)).map
          (fun e =>
            (K.ofKey (K.keyOf a) before).foldl K.step e))
        a ++
      reportsAfter entries (before ++ [a]) as

/- A report depends on the earlier items with its key. -/
theorem reports_storeAll
    (entries : List β)
    (before as : List α) :
    K.reports report (K.storeAll before entries) as =
      K.reportsAfter report entries before as := by
  induction as generalizing before with
  | nil => rfl
  | cons a as ih =>
      have hSnoc :
          K.store a (K.storeAll before entries) =
            K.storeAll (before ++ [a]) entries := by
        simp [storeAll]
      rw [reports, reportsAfter, K.find_storeAll, hSnoc,
        ih (before ++ [a])]

theorem reports_eq_reportsAfter
    (entries : List β)
    (as : List α) :
    K.reports report entries as =
      K.reportsAfter report entries [] as :=
  K.reports_storeAll report entries [] as

/- The report of one more item. -/
theorem reports_concat
    (entries : List β)
    (as : List α)
    (a : α) :
    K.reports report entries (as ++ [a]) =
      K.reports report entries as ++
        report
          (K.find (K.storeAll as entries) (K.keyOf a)) a := by
  induction as generalizing entries with
  | nil => simp [reports, storeAll]
  | cons b as ih =>
      rw [List.cons_append, reports, reports, ih,
        List.append_assoc]
      rfl

/- A report is one on an item, behind earlier ones. -/
theorem mem_reports
    {entries : List β}
    {as : List α}
    {m : γ}
    (hMem : m ∈ K.reports report entries as) :
    ∃ before a after,
      as = before ++ a :: after ∧
        m ∈
          report
            (K.find (K.storeAll before entries) (K.keyOf a))
            a := by
  induction as generalizing entries with
  | nil => cases hMem
  | cons a as ih =>
      rw [reports, List.mem_append] at hMem
      rcases hMem with hFirst | hLater
      · exact ⟨[], a, as, rfl, hFirst⟩
      · rcases ih hLater with
          ⟨before, b, after, rfl, hReport⟩
        exact ⟨a :: before, b, after, rfl, hReport⟩

/- Items with one key look at one entry only. -/
theorem reports_congr
    {k : κ}
    {as : List α}
    (hKey : ∀ a ∈ as, K.keyOf a = k)
    {entries entries' : List β}
    (hFind : K.find entries k = K.find entries' k) :
    K.reports report entries as =
      K.reports report entries' as := by
  induction as generalizing entries entries' with
  | nil => rfl
  | cons a as ih =>
      have hHere := hKey a (by simp)
      have hNext :
          K.find (K.store a entries) k =
            K.find (K.store a entries') k := by
        rw [K.find_store, K.find_store, hFind]
      rw [reports, reports, hHere, hFind,
        ih (fun b hb => hKey b (List.mem_cons_of_mem _ hb))
          hNext]

variable (reportKey : γ → Option κ)

/-
  The reports with one key are those of the items with that
  key, where each report has the key of its item.
-/
theorem filter_reports
    (hReport :
      ∀ found a m,
        (∀ e, found = some e → K.entryKey e = K.keyOf a) →
          m ∈ report found a →
            reportKey m = some (K.keyOf a))
    (entries : List β)
    (as : List α)
    (k : κ) :
    (K.reports report entries as).filter
        (fun m => reportKey m = some k) =
      K.reports report entries (K.ofKey k as) := by
  induction as generalizing entries with
  | nil => rfl
  | cons a as ih =>
      have hFound :
          ∀ e, K.find entries (K.keyOf a) = some e →
            K.entryKey e = K.keyOf a := by
        intro e hFind
        simpa using List.find?_some hFind
      have hMsg :=
        fun m =>
          hReport (K.find entries (K.keyOf a)) a m hFound
      rw [reports, List.filter_append, ih]
      by_cases hKey : K.keyOf a = k
      · have hAll :
            (report (K.find entries (K.keyOf a)) a).filter
                (fun m => reportKey m = some k) =
              report (K.find entries (K.keyOf a)) a := by
          rw [List.filter_eq_self]
          intro m hm
          rw [hMsg m hm, hKey]
          exact decide_eq_true rfl
        rw [hAll, ofKey, ofKey,
          List.filter_cons_of_pos (by simpa using hKey),
          reports]
      · have hNone :
            (report (K.find entries (K.keyOf a)) a).filter
                (fun m => reportKey m = some k) = [] := by
          rw [List.filter_eq_nil_iff]
          intro m hm
          rw [hMsg m hm]
          simpa using hKey
        have hSame :
            K.find (K.store a entries) k =
              K.find entries k := by
          rw [K.find_store, if_neg hKey]
        have hOwn :
            ∀ b ∈ K.ofKey k as, K.keyOf b = k := by
          intro b hb
          simpa using (List.mem_filter.mp hb).2
        have hRest :=
          K.reports_congr report hOwn hSame
        rw [hNone, List.nil_append, hRest, ofKey, ofKey,
          List.filter_cons_of_neg (by simpa using hKey)]

end KeyedFold

end Foundations
