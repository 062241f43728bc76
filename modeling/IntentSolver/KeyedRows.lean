import Mathlib.Data.List.Nodup

/-!
# Rows under a key

A table whose rows each have a key of their own. An update rewrites the row of one key, if that
row passes the condition of the statement; a fact about the row of a key outlives every update
that keeps it.
-/

namespace IntentSolver.KeyedRows

variable {Row Key : Type} [DecidableEq Key] (key : Row → Key)

/-- `UPDATE … WHERE key = … AND …`: every row of the key that passes becomes this one. -/
def update (passes : Row → Bool) (row : Row) (rows : List Row) : List Row :=
  rows.map fun stored => if key stored = key row ∧ passes stored = true then row else stored

/-- The row of this key is of this kind. -/
def At (rows : List Row) (k : Key) (kind : Row → Prop) : Prop :=
  ∃ row ∈ rows, key row = k ∧ kind row

variable {key} {passes : Row → Bool} {row stored : Row} {rows : List Row} {k : Key}

/-- An update never changes a key. -/
theorem map_key_update : (update key passes row rows).map key = rows.map key := by
  unfold update
  rw [List.map_map]
  apply List.map_congr_left
  intro stored hm
  dsimp only [Function.comp]
  split_ifs with h
  · exact h.1.symm
  · rfl

/-- What is in the table after an update: the new row, or an old one. -/
theorem mem_update (h : stored ∈ update key passes row rows) :
    (stored = row ∧ ∃ old ∈ rows, key old = key row ∧ passes old = true) ∨
      (stored ∈ rows ∧ (key stored = key row → passes stored = false)) := by
  obtain ⟨old, hm, rfl⟩ := List.mem_map.mp h
  by_cases hc : key old = key row ∧ passes old = true
  · rw [if_pos hc]
    exact .inl ⟨rfl, old, hm, hc⟩
  · rw [if_neg hc]
    exact .inr ⟨hm, fun hk => Bool.eq_false_iff.mpr fun hp => hc ⟨hk, hp⟩⟩

/-- A table without rows of the key is left as it is. -/
theorem update_of_forall_ne (h : ∀ stored ∈ rows, key stored ≠ key row) :
    update key passes row rows = rows := by
  unfold update
  conv_rhs => rw [← List.map_id rows]
  apply List.map_congr_left
  intro stored hm
  rw [if_neg fun hc => h stored hm hc.1, id_eq]

omit [DecidableEq Key] in
/-- Of the row of a key nothing is known twice. -/
theorem eq_of_key (hn : (rows.map key).Nodup) (hr : row ∈ rows) (hs : stored ∈ rows)
    (hk : key stored = key row) : stored = row :=
  List.inj_on_of_nodup_map hn hs hr hk

/-- An update takes one row out of the table and puts the new one in. -/
theorem update_perm (hn : (rows.map key).Nodup) (hm : stored ∈ rows)
    (hk : key stored = key row) (hp : passes stored = true) :
    ∃ rest, rows.Perm (stored :: rest) ∧ (update key passes row rows).Perm (row :: rest) := by
  obtain ⟨front, back, rfl⟩ := List.append_of_mem hm
  rw [List.map_append, List.map_cons] at hn
  obtain ⟨-, hb, hd⟩ := List.nodup_append.mp hn
  have hfront : ∀ other ∈ front, key other ≠ key row := fun other ho heq =>
    hd _ (List.mem_map_of_mem ho) _ List.mem_cons_self (heq.trans hk.symm)
  have hback : ∀ other ∈ back, key other ≠ key row := fun other ho heq =>
    (List.nodup_cons.mp hb).1 (hk ▸ heq ▸ List.mem_map_of_mem ho)
  have hsplit : update key passes row (front ++ stored :: back) = front ++ row :: back := by
    have hf : update key passes row front = front := update_of_forall_ne hfront
    have hb : update key passes row back = back := update_of_forall_ne hback
    unfold update at hf hb ⊢
    rw [List.map_append, List.map_cons, hf, hb, if_pos ⟨hk, hp⟩]
  rw [hsplit]
  exact ⟨front ++ back, List.perm_middle, List.perm_middle⟩

namespace At

variable {kind weaker : Row → Prop}

omit [DecidableEq Key] in
/-- With one row a key, what holds at the key holds of its row. -/
theorem elim (h : At key rows k kind) (hn : (rows.map key).Nodup) (hr : row ∈ rows)
    (hk : key row = k) : kind row := by
  obtain ⟨other, ho, hok, hkind⟩ := h
  rw [← eq_of_key hn hr ho (hok.trans hk.symm)]
  exact hkind

omit [DecidableEq Key] in
/-- A row of a kind is of every weaker kind. -/
theorem mono (h : At key rows k kind) (hw : ∀ row, kind row → weaker row) :
    At key rows k weaker := by
  obtain ⟨row, hm, hk, hkind⟩ := h
  exact ⟨row, hm, hk, hw row hkind⟩

omit [DecidableEq Key] in
/-- Adding a row changes nothing about the others. -/
theorem cons (h : At key rows k kind) : At key (row :: rows) k kind := by
  obtain ⟨other, hm, hk, hkind⟩ := h
  exact ⟨other, List.mem_cons_of_mem _ hm, hk, hkind⟩

/-- A fact outlives an update whose new row has it wherever the old one had. -/
theorem update (h : At key rows k kind)
    (hrow : ∀ stored ∈ rows, key stored = key row → passes stored = true → key row = k →
      kind stored → kind row) : At key (KeyedRows.update key passes row rows) k kind := by
  obtain ⟨stored, hm, hk, hkind⟩ := h
  by_cases hc : key stored = key row ∧ passes stored = true
  · have hrk := hc.1.symm.trans hk
    exact ⟨row, List.mem_map.mpr ⟨stored, hm, if_pos hc⟩, hrk,
      hrow stored hm hc.1 hc.2 hrk hkind⟩
  · exact ⟨stored, List.mem_map.mpr ⟨stored, hm, if_neg hc⟩, hk, hkind⟩

/-- After an update the new row is there, if it replaced one. -/
theorem updated (hm : stored ∈ rows) (hk : key stored = key row) (hp : passes stored = true)
    (hkind : kind row) : At key (KeyedRows.update key passes row rows) (key row) kind :=
  ⟨row, List.mem_map.mpr ⟨stored, hm, if_pos ⟨hk, hp⟩⟩, rfl, hkind⟩

end At

end IntentSolver.KeyedRows
