/-
Reading back: a JSON text that has been written holds the value it was written from.

Each item or entry has a line of its own, so a container is read back line by line, and its lines by the values on
them.
- `readItems_lines`, `readEntries_lines`: lists and mappings are read back.
- `readValue_write`: a value of texts, short integers and words is read back at any level, whatever follows it.
- `read_render`: so is a whole text.
-/
import Typings.Proofs.Json.Scalar

namespace Typings.Json

open Text

variable {fuel level : Nat} {rest t : Text} {v : Value} {items : List Value}

/-! ## Lines -/

/-- the lines inside a container, with what separates them -/
def lines (level : Nat) (ts : List Text) : Text := join ",\n" (ts.map fun l => indent level ++ l)

theorem lines_singleton (t : Text) : lines level [t] = indent level ++ t := by
  simp [lines, join]

theorem lines_cons (t u : Text) (ts : List Text) :
    lines level (t :: u :: ts) =
      indent level ++ t ++ (CodePoint.ofChar ',' :: CodePoint.ofChar '\n' :: lines level (u :: ts)) := by
  simp only [lines, join, List.map_cons, List.intercalate_cons_cons, List.append_assoc]
  rfl

theorem block_eq {opening closing : Text} {ts : List Text} (h : ts ≠ []) :
    block opening closing level ts = opening ++ (CodePoint.ofChar '\n' ::
      (lines (level + 1) ts ++ (CodePoint.ofChar '\n' :: (indent level ++ closing)))) := by
  have hne : ts.isEmpty = false := by simpa using h
  rw [block, hne, if_neg Bool.false_ne_true]
  simp only [lines, List.append_assoc]
  rfl

theorem writeItems_eq (level : Nat) (items : List Value) : writeItems level items = items.map (write level) := by
  induction items with
  | nil => rfl
  | cons v items ih => rw [writeItems, ih, List.map_cons]

/-- an entry on its line -/
def writeEntry (level : Nat) (e : Text × Value) : Text := string e.1 ++ ": " ++ write level e.2

theorem writeEntries_eq (level : Nat) (entries : List (Text × Value)) :
    writeEntries level (Value.keyed entries) = entries.map (writeEntry level) := by
  induction entries with
  | nil => rfl
  | cons e entries ih =>
    have hcons : Value.keyed (e :: entries) = (.text e.1, e.2) :: Value.keyed entries := rfl
    rw [hcons, writeEntries, ih, List.map_cons]
    rfl

/-- the end of a container: white space and a bracket -/
structure Closes (gap : Text) (bracket : CodePoint) : Prop where
  space : ∀ c ∈ gap, isSpace c = true
  bracket : bracket = ']' ∨ bracket = '\x7d'

theorem Closes.ends {gap : Text} {b : CodePoint} (h : Closes gap b) (rest : Text) : Ends (gap ++ b :: rest) := by
  refine ends_of_space h.space (ends_cons ?_ rest)
  rcases h.bracket with rfl | rfl <;> decide

theorem Closes.skipSpace_eq {gap : Text} {b : CodePoint} (h : Closes gap b) (rest : Text) :
    skipSpace (gap ++ b :: rest) = b :: rest := by
  rw [skipSpace_append h.space]
  refine skipSpace_cons ?_ rest
  rcases h.bracket with rfl | rfl <;> rfl

theorem ends_comma (r : Text) : Ends (CodePoint.ofChar ',' :: r) := ends_cons (by decide) r

/-! ## Lists -/

theorem readItems_last {gap : Text} (hg : Closes gap ']') (hv : Reads v) (h : 2 * (write level v).length ≤ fuel) :
    readItems (fuel + 1) (write level v ++ (gap ++ CodePoint.ofChar ']' :: rest)) = .ok ([v], rest) := by
  have hread := hv.read level fuel _ h (hg.ends rest)
  simp only [readItems, hread, hg.skipSpace_eq, bind, Except.bind]
  rfl

theorem readItems_more {more : Text} (hv : Reads v) (h : 2 * (write level v).length ≤ fuel)
    (hmore : readItems fuel (skipSpace more) = .ok (items, rest)) :
    readItems (fuel + 1) (write level v ++ CodePoint.ofChar ',' :: more) = .ok (v :: items, rest) := by
  have hread := hv.read level fuel _ h (ends_comma more)
  have hcomma : skipSpace (CodePoint.ofChar ',' :: more) = CodePoint.ofChar ',' :: more := skipSpace_cons rfl more
  have hclose : startsWith (CodePoint.ofChar ',' :: more) "]" = false := startsWith_singleton _ _ more
  have hopen : startsWith (CodePoint.ofChar ',' :: more) "," = true := startsWith_singleton _ _ more
  simp only [readItems, hread, hcomma, bind, Except.bind, hclose, hopen, if_true, if_false, Bool.false_eq_true,
    List.drop_one, List.tail_cons, hmore]

/-- **A list** is read back line by line. -/
theorem readItems_lines {gap : Text} (hg : Closes gap ']') (hne : items ≠ []) (h : ∀ v ∈ items, Reads v)
    (hfuel : 2 * (lines level (items.map (write level))).length + 2 ≤ fuel) :
    readItems fuel (skipSpace (lines level (items.map (write level)) ++ (gap ++ CodePoint.ofChar ']' :: rest))) =
      .ok (items, rest) := by
  induction items generalizing fuel with
  | nil => exact absurd rfl hne
  | cons v items ih =>
    obtain ⟨hv, hitems⟩ := List.forall_mem_cons.1 h
    obtain ⟨n, rfl⟩ : ∃ n, fuel = n + 1 := ⟨fuel - 1, by omega⟩
    cases items with
    | nil =>
      rw [List.map_singleton, lines_singleton] at hfuel ⊢
      rw [List.length_append] at hfuel
      rw [List.append_assoc, skipSpace_append isSpace_indent, ((hv.begins level).append _).skipSpace_eq]
      exact readItems_last hg hv (by omega)
    | cons w items =>
      rw [List.map_cons, List.map_cons, lines_cons] at hfuel ⊢
      simp only [List.length_append, List.length_cons] at hfuel
      have hmore := @ih n (by simp) hitems (by rw [List.map_cons]; omega)
      rw [List.append_assoc, List.append_assoc, skipSpace_append isSpace_indent,
        ((hv.begins level).append _).skipSpace_eq]
      exact readItems_more hv (by omega) hmore

/-! ## Mappings -/

theorem begins_writeEntry (e : Text × Value) : Begins (writeEntry level e) :=
  ⟨'"', _, rfl, by decide, by decide, by decide⟩

theorem length_writeEntry (e : Text × Value) :
    (writeEntry level e).length = (string e.1).length + 2 + (write level e.2).length := by
  simp only [writeEntry, List.length_append]
  rfl

variable {e : Text × Value} {entries : List (Text × Value)} {found : List (Value × Value)}

/-- what the reader of entries does on a written one -/
theorem readEntries_step (hv : Reads e.2) (h : 2 * (writeEntry level e).length ≤ fuel) {r : Text} (hr : Ends r) :
    readEntries (fuel + 1) (writeEntry level e ++ r) =
      (if (skipSpace r).startsWith "\x7d" then .ok ([(.text e.1, e.2)], (skipSpace r).drop 1)
      else if (skipSpace r).startsWith "," then do
        let (es, rest) ← readEntries fuel (skipSpace ((skipSpace r).drop 1))
        .ok ((.text e.1, e.2) :: es, rest)
      else stopAt .comma (skipSpace r)) := by
  rw [length_writeEntry] at h
  have hlength := length_lt_string e.1
  have htext : writeEntry level e ++ r = CodePoint.ofChar '"' :: (e.1.flatMap escaped ++ CodePoint.ofChar '"' ::
      (CodePoint.ofChar ':' :: CodePoint.ofChar ' ' :: (write level e.2 ++ r))) := by
    rw [writeEntry, List.append_assoc, List.append_assoc, string_eq]
    rfl
  have hquote : ∀ s, startsWith (CodePoint.ofChar '"' :: s) "\"" = true := fun s => startsWith_singleton _ _ s
  have hcolon : ∀ s, startsWith (CodePoint.ofChar ':' :: s) ":" = true := fun s => startsWith_singleton _ _ s
  have hkey := readString_string (CodePoint.ofChar '"' :: (e.1.flatMap escaped ++ CodePoint.ofChar '"' ::
      (CodePoint.ofChar ':' :: CodePoint.ofChar ' ' :: (write level e.2 ++ r)))) (CodePoint.ofChar ':' ::
      CodePoint.ofChar ' ' :: (write level e.2 ++ r)) e.1 fuel (by omega)
  have hcolonSpace : ∀ s, skipSpace (CodePoint.ofChar ':' :: s) = CodePoint.ofChar ':' :: s := skipSpace_cons rfl
  have hspace : skipSpace (CodePoint.ofChar ' ' :: (write level e.2 ++ r)) = write level e.2 ++ r :=
    ((hv.begins level).append r).skipSpace_eq
  have hread := hv.read level fuel r (by omega) hr
  rw [htext]
  simp only [readEntries, hquote, Bool.not_true, Bool.false_eq_true, if_false, List.drop_one, List.tail_cons, hkey,
    bind, Except.bind, hcolonSpace, hcolon, hspace, hread]

theorem readEntries_last {gap : Text} (hg : Closes gap '\x7d') (hv : Reads e.2)
    (h : 2 * (writeEntry level e).length ≤ fuel) :
    readEntries (fuel + 1) (writeEntry level e ++ (gap ++ CodePoint.ofChar '\x7d' :: rest)) =
      .ok ([(.text e.1, e.2)], rest) := by
  have hclose : startsWith (CodePoint.ofChar '\x7d' :: rest) "\x7d" = true := startsWith_singleton _ _ rest
  rw [readEntries_step hv h (hg.ends rest), hg.skipSpace_eq, if_pos hclose]
  rfl

theorem readEntries_more {more : Text} (hv : Reads e.2) (h : 2 * (writeEntry level e).length ≤ fuel)
    (hmore : readEntries fuel (skipSpace more) = .ok (found, rest)) :
    readEntries (fuel + 1) (writeEntry level e ++ CodePoint.ofChar ',' :: more) =
      .ok ((.text e.1, e.2) :: found, rest) := by
  have hcomma : skipSpace (CodePoint.ofChar ',' :: more) = CodePoint.ofChar ',' :: more := skipSpace_cons rfl more
  have hclose : startsWith (CodePoint.ofChar ',' :: more) "\x7d" = false := startsWith_singleton _ _ more
  have hopen : startsWith (CodePoint.ofChar ',' :: more) "," = true := startsWith_singleton _ _ more
  rw [readEntries_step hv h (ends_comma more), hcomma, hclose, if_neg Bool.false_ne_true, if_pos hopen, List.drop_one,
    List.tail_cons, hmore]
  rfl

/-- **A mapping** is read back line by line. -/
theorem readEntries_lines {gap : Text} (hg : Closes gap '\x7d') (hne : entries ≠ []) (h : ∀ e ∈ entries, Reads e.2)
    (hfuel : 2 * (lines level (entries.map (writeEntry level))).length + 2 ≤ fuel) :
    readEntries fuel (skipSpace (lines level (entries.map (writeEntry level)) ++
      (gap ++ CodePoint.ofChar '\x7d' :: rest))) = .ok (Value.keyed entries, rest) := by
  induction entries generalizing fuel with
  | nil => exact absurd rfl hne
  | cons e entries ih =>
    obtain ⟨hv, hentries⟩ := List.forall_mem_cons.1 h
    obtain ⟨n, rfl⟩ : ∃ n, fuel = n + 1 := ⟨fuel - 1, by omega⟩
    cases entries with
    | nil =>
      rw [List.map_singleton, lines_singleton] at hfuel ⊢
      rw [List.length_append] at hfuel
      rw [List.append_assoc, skipSpace_append isSpace_indent, ((begins_writeEntry e).append _).skipSpace_eq]
      exact readEntries_last hg hv (by omega)
    | cons d entries =>
      rw [List.map_cons, List.map_cons, lines_cons] at hfuel ⊢
      simp only [List.length_append, List.length_cons] at hfuel
      have hmore := @ih n (by simp) hentries (by rw [List.map_cons]; omega)
      rw [List.append_assoc, List.append_assoc, skipSpace_append isSpace_indent,
        ((begins_writeEntry e).append _).skipSpace_eq]
      exact readEntries_more hv (by omega) hmore

/-! ## Values -/

/-- the reader of a container comes to its first line -/
theorem begins_lines {u : Text} (hu : Begins u) (ts : List Text) (r : Text) :
    Begins (skipSpace (lines level (u :: ts) ++ r)) := by
  have hline : ∃ s, lines level (u :: ts) ++ r = indent level ++ (u ++ s) := by
    cases ts with
    | nil => exact ⟨r, by rw [lines_singleton, List.append_assoc]⟩
    | cons w ts => exact ⟨_, by rw [lines_cons, List.append_assoc, List.append_assoc]⟩
  obtain ⟨s, hs⟩ := hline
  rw [hs, skipSpace_append isSpace_indent, (hu.append s).skipSpace_eq]
  exact hu.append s

theorem closes_indent {b : CodePoint} (h : b = ']' ∨ b = '\x7d') :
    Closes (CodePoint.ofChar '\n' :: indent level) b where
  space := List.forall_mem_cons.2 ⟨rfl, isSpace_indent⟩
  bracket := h

theorem readValue_list {s : Text} (hb : Begins (skipSpace s)) (h : readItems fuel (skipSpace s) = .ok (items, rest)) :
    readValue (fuel + 1) (CodePoint.ofChar '[' :: s) = .ok (.list items, rest) := by
  have hne : CodePoint.ofChar '[' ≠ '"' := by decide
  simp only [readValue, hne, if_false, if_true, hb.not_closing.1, Bool.false_eq_true, h]
  rfl

theorem readValue_map {s : Text} (hb : Begins (skipSpace s))
    (h : readEntries fuel (skipSpace s) = .ok (found, rest)) :
    readValue (fuel + 1) (CodePoint.ofChar '\x7b' :: s) = .ok (.map (Value.ofEntries found), rest) := by
  have hne : CodePoint.ofChar '\x7b' ≠ '"' ∧ CodePoint.ofChar '\x7b' ≠ '[' := by decide
  simp only [readValue, hne, if_false, if_true, hb.not_closing.2, Bool.false_eq_true, h]
  rfl

theorem reads_list (h : ∀ v ∈ items, Reads v) : Reads (.list items) := by
  cases items with
  | nil =>
    refine ⟨fun _ => ⟨'[', _, rfl, by decide, by decide, by decide⟩, fun level fuel rest hfuel _ => ?_⟩
    obtain ⟨n, rfl⟩ : ∃ n, fuel = n + 1 := ⟨fuel - 1, by simp [write, writeItems, block] at hfuel; omega⟩
    rfl
  | cons v items =>
    have hwrite : ∀ level rest, write level (.list (v :: items)) ++ rest = CodePoint.ofChar '[' ::
        (CodePoint.ofChar '\n' :: (lines (level + 1) ((v :: items).map (write (level + 1))) ++
          (CodePoint.ofChar '\n' :: indent level ++ CodePoint.ofChar ']' :: rest))) := by
      intro level rest
      rw [write, writeItems_eq, block_eq (by simp)]
      simp
    refine ⟨fun level => ?_, fun level fuel rest hfuel _ => ?_⟩
    · rw [← List.append_nil (write _ _), hwrite]
      exact ⟨'[', _, rfl, by decide, by decide, by decide⟩
    · rw [← List.append_nil (write _ _), hwrite] at hfuel
      simp only [List.length_cons, List.length_append] at hfuel
      obtain ⟨n, rfl⟩ : ∃ n, fuel = n + 1 := ⟨fuel - 1, by omega⟩
      rw [hwrite]
      exact readValue_list (begins_lines ((h v List.mem_cons_self).begins (level + 1)) _ _)
        (readItems_lines (closes_indent (Or.inl rfl)) (by simp) h (by omega))

theorem reads_map {entries : List (Text × Value)} (hd : (entries.map Prod.fst).Nodup)
    (h : ∀ e ∈ entries, Reads e.2) : Reads (.map (Value.keyed entries)) := by
  cases entries with
  | nil =>
    refine ⟨fun _ => ⟨'\x7b', _, rfl, by decide, by decide, by decide⟩, fun level fuel rest hfuel _ => ?_⟩
    obtain ⟨n, rfl⟩ : ∃ n, fuel = n + 1 :=
      ⟨fuel - 1, by simp [write, writeEntries, Value.keyed, block] at hfuel; omega⟩
    rfl
  | cons e entries =>
    have hwrite : ∀ level rest, write level (.map (Value.keyed (e :: entries))) ++ rest = CodePoint.ofChar '\x7b' ::
        (CodePoint.ofChar '\n' :: (lines (level + 1) ((e :: entries).map (writeEntry (level + 1))) ++
          (CodePoint.ofChar '\n' :: indent level ++ CodePoint.ofChar '\x7d' :: rest))) := by
      intro level rest
      rw [write, writeEntries_eq, block_eq (by simp)]
      simp
    refine ⟨fun level => ?_, fun level fuel rest hfuel _ => ?_⟩
    · rw [← List.append_nil (write _ _), hwrite]
      exact ⟨'\x7b', _, rfl, by decide, by decide, by decide⟩
    · rw [← List.append_nil (write _ _), hwrite] at hfuel
      simp only [List.length_cons, List.length_append] at hfuel
      obtain ⟨n, rfl⟩ : ∃ n, fuel = n + 1 := ⟨fuel - 1, by omega⟩
      rw [hwrite, ← Value.ofEntries_keyed hd]
      exact readValue_map (begins_lines (begins_writeEntry e) _ _)
        (readEntries_lines (closes_indent (Or.inr rfl)) (by simp) h (by omega))

/-- **A value** of exact leaves is read back wherever it stands. -/
theorem readValue_write {word : Text → Prop} (h : Value.Composed word IsExact v) : Reads v := by
  induction h with
  | leaf h => exact reads_leaf h
  | list _ ih => exact reads_list ih
  | map _ hd _ ih => exact reads_map hd ih

/-- **A written text** holds the value it was written from, with white space behind it or without. -/
theorem read_render {word : Text → Prop} (h : Value.Composed word IsExact v) (gap : Text)
    (hg : ∀ c ∈ gap, isSpace c = true) : read (render v ++ gap) = .ok v := by
  have hv := readValue_write h
  have hbegins : Begins (render v ++ gap) := (hv.begins 0).append gap
  have hread : readValue (2 * (render v ++ gap).length + 2) (render v ++ gap) = .ok (v, gap) := by
    refine hv.read 0 _ gap ?_ (ends_of_gap hg)
    change 2 * (render v).length ≤ _
    rw [List.length_append]
    omega
  have hgap : skipSpace gap = [] := by
    rw [← List.append_nil gap, skipSpace_append hg]
    rfl
  have htext : readText (render v ++ gap) = .ok v := by
    simp only [readText, hbegins.skipSpace_eq, hread, bind, Except.bind, hgap, List.isEmpty_nil, Bool.not_true,
      Bool.false_eq_true, if_false]
    rfl
  have hmark : startsWith (render v ++ gap) [0xFEFF] = false := by
    obtain ⟨c, r, hcr, hc, -⟩ := hbegins
    rw [hcr, startsWith_singleton, beq_eq_false_iff_ne]
    rintro rfl
    exact absurd hc (by decide)
  rw [read, hmark, if_neg Bool.false_ne_true, htext]

end Typings.Json
