import Mathlib.Data.List.Basic
import Vitrine.Proofs.Json.Literal

/-!
# Reading entries back (section 4.5)

An object of texts is read entry by entry. Where each key and each address is spelled by a literal
(`Denotes`), the entries are read back as they are and in their order, whatever escapes the literals use.

`to_json` writes the entries of an `ImportMap` as such an object, and the configuration and the project are read
from objects (`from_json`).

* `readText_denotes`: a literal is read, and what stands behind it is left.
* `entryItems_behind`: the induction over the entries, from behind the first one on.
* `readEntries_denotes`: an object of literals is read as its entries.
* `readAll_record`: a record whose only field is such an object is read as that field.
-/

namespace Vitrine.Json

variable {c : Cursor} {rest text : List Char} {s : String}

/-! ## Steps of a cursor -/

/-- A character that is no blank is not skipped. -/
theorem Cursor.skipSpace_of_cons {ch : Char} (h : c.rest = ch :: rest) (hch : isSpace ch = false) :
    c.skipSpace = c :=
  skipSpace_eq fun d hd => by
    rw [h, List.head?_cons, Option.mem_some_iff] at hd
    exact hd ▸ hch

theorem Cursor.next_rest_of_cons {ch : Char} (h : c.rest = ch :: rest) : c.next.rest = rest := by
  rw [next_rest, h, List.tail_cons]

theorem Cursor.peek?_of_cons {ch : Char} (h : c.rest = ch :: rest) : c.peek? = some ch := by
  rw [peek?, h, List.head?_cons]

/-- A value starts at the first character that is no blank. -/
theorem toValue_of_cons {ch : Char} (h : c.rest = ch :: rest) (hch : Cursor.isSpace ch = false) :
    toValue c = .ok c := by
  rw [toValue, Cursor.skipSpace_of_cons h hch, h]
  rfl

/-! ## Literals -/

theorem Denotes.eq_cons (h : Denotes text s) : ∃ cs, text = '"' :: cs := by
  obtain ⟨body, rfl, -⟩ := h
  exact ⟨body ++ ['"'], rfl⟩

/-- Behind its quote a literal is read to its end. -/
theorem Denotes.string (h : Denotes text s) (hrest : c.rest = text ++ rest) :
    ∃ c', string c.next = .ok (s, c') ∧ c'.rest = rest := by
  obtain ⟨body, rfl, hspells⟩ := h
  have hnext : c.next.rest = body ++ '"' :: rest := by
    rw [Cursor.next_rest, hrest, List.append_assoc, List.singleton_append]
    rfl
  refine ⟨c.next.skip (body.length + 1), ?_, ?_⟩
  · rw [hspells.string hnext, String.ofList_toList]
  · rw [Cursor.skip_rest, hnext, List.drop_append]
    simp

theorem readText_denotes (h : Denotes text s) (hrest : c.rest = text ++ rest) :
    ∃ c', readText c = .ok (s, c') ∧ c'.rest = rest := by
  obtain ⟨c', hstring, hbehind⟩ := h.string hrest
  obtain ⟨cs, rfl⟩ := h.eq_cons
  refine ⟨c', ?_, hbehind⟩
  simp only [readText, toValue_of_cons hrest rfl, Cursor.peek?_of_cons hrest, bind, Except.bind, hstring]

/-! ## Keys -/

/-- The first key of an object. -/
theorem nextKey_first (h : Denotes text s) (hrest : c.rest = text ++ rest) :
    ∃ c', nextKey true c = .ok (some (s, c')) ∧ c'.rest = rest := by
  obtain ⟨c', hstring, hbehind⟩ := h.string hrest
  obtain ⟨cs, rfl⟩ := h.eq_cons
  refine ⟨c', ?_, hbehind⟩
  simp only [nextKey, Cursor.skipSpace_of_cons hrest rfl, Cursor.peek?_of_cons hrest, hstring, bind,
    Except.bind, if_true]
  rfl

/-- The key behind a comma. -/
theorem nextKey_behind (h : Denotes text s) (hrest : c.rest = ',' :: (text ++ rest)) :
    ∃ c', nextKey false c = .ok (some (s, c')) ∧ c'.rest = rest := by
  have hnext := Cursor.next_rest_of_cons hrest
  obtain ⟨c', hstring, hbehind⟩ := h.string hnext
  obtain ⟨cs, rfl⟩ := h.eq_cons
  refine ⟨c', ?_, hbehind⟩
  simp only [nextKey, Cursor.skipSpace_of_cons hrest rfl, Cursor.peek?_of_cons hrest,
    Cursor.skipSpace_of_cons hnext rfl, Cursor.peek?_of_cons hnext, hstring, bind, Except.bind]
  rfl

/-- The closing bracket ends the entries. -/
theorem nextKey_end (first : Bool) (hrest : c.rest = '\x7d' :: rest) : nextKey first c = .ok none := by
  simp only [nextKey, Cursor.skipSpace_of_cons hrest rfl, Cursor.peek?_of_cons hrest]
  rfl

theorem colon_eq (hrest : c.rest = ':' :: rest) : colon c = .ok c.next := by
  simp only [colon, Cursor.skipSpace_of_cons hrest rfl, Cursor.peek?_of_cons hrest]

/-! ## Entries -/

section

variable {literal : String → List Char}

/-- An entry of an object. -/
def entryText (literal : String → List Char) (e : String × String) : List Char :=
  literal e.1 ++ ':' :: literal e.2

/-- Entries behind a first one, with the brace that ends the object. -/
def behindEntry (literal : String → List Char) : List (String × String) → List Char
  | [] => ['\x7d']
  | e :: es => ',' :: (entryText literal e ++ behindEntry literal es)

/-- The text of entries is that of the first one, and what stands behind it. -/
theorem intercalate_entries (e : String × String) (es : List (String × String)) :
    List.intercalate [','] ((e :: es).map (entryText literal)) ++ ['\x7d'] =
      entryText literal e ++ behindEntry literal es := by
  induction es generalizing e with
  | nil => rw [List.map_singleton, List.intercalate_singleton, behindEntry]
  | cons e' es ih =>
    rw [List.map_cons, List.map_cons, List.intercalate_cons_cons, List.append_assoc, List.append_assoc,
      ← List.map_cons, ih, behindEntry, List.singleton_append]

/-- Each entry has characters of its own, so there is fuel enough. -/
theorem length_behindEntry (es : List (String × String)) :
    es.length < (behindEntry literal es).length := by
  induction es with
  | nil => exact Nat.zero_lt_one
  | cons e es ih =>
    rw [behindEntry, List.length_cons, List.length_cons, List.length_append]
    omega

/-- Reads the entries behind one more. -/
theorem entryItems_step {read : List (String × String)} {n : Nat} {key value : String} {k c' : Cursor}
    (hkey : nextKey read.isEmpty c = .ok (some (key, k))) (hcolon : k.rest = ':' :: rest)
    (hvalue : readText k.next = .ok (value, c')) :
    entryItems (n + 1) read c = entryItems n ((key, value) :: read) c' := by
  simp only [entryItems, hkey, bind, Except.bind, colon_eq hcolon, hvalue]

variable (hliteral : ∀ s, Denotes (literal s) s)
include hliteral

/-- One entry is read once its key is. -/
theorem entryItems_entry (read : List (String × String)) {n : Nat} {e : String × String} {k : Cursor}
    (hkey : nextKey read.isEmpty c = .ok (some (e.1, k))) (hk : k.rest = ':' :: (literal e.2 ++ rest)) :
    ∃ c', entryItems (n + 1) read c = entryItems n (e :: read) c' ∧ c'.rest = rest := by
  obtain ⟨c', hvalue, hbehind⟩ := readText_denotes (hliteral e.2) (Cursor.next_rest_of_cons hk)
  exact ⟨c', entryItems_step hkey hk hvalue, hbehind⟩

theorem entryItems_behind {es read : List (String × String)} {n : Nat} (hread : read.isEmpty = false)
    (hrest : c.rest = behindEntry literal es ++ rest) (hn : es.length < n) :
    ∃ c', entryItems n read c = .ok (es.reverse ++ read, c') ∧ c'.rest = rest := by
  induction es generalizing read n c with
  | nil =>
    obtain ⟨n, rfl⟩ := Nat.exists_eq_add_one.mpr hn
    refine ⟨c.next, ?_, Cursor.next_rest_of_cons hrest⟩
    simp only [entryItems, nextKey_end _ hrest, bind, Except.bind, Cursor.skipSpace_of_cons hrest rfl]
    rfl
  | cons e es ih =>
    obtain ⟨n, rfl⟩ := Nat.exists_eq_add_one.mpr (Nat.zero_lt_of_lt hn)
    simp only [behindEntry, entryText, List.cons_append, List.append_assoc] at hrest
    obtain ⟨k, hkey, hk⟩ := nextKey_behind (hliteral e.1) hrest
    rw [← hread] at hkey
    obtain ⟨v, hstep, hv⟩ := entryItems_entry hliteral read (n := n) hkey hk
    have hmore : (e :: read).isEmpty = false := rfl
    obtain ⟨c', hitems, hend⟩ := ih hmore hv (Nat.lt_of_succ_lt_succ hn)
    refine ⟨c', ?_, hend⟩
    rw [hstep, hitems, List.reverse_cons, List.append_assoc, List.singleton_append]

/-- **An object of literals is read as its entries**, in their order. -/
theorem readEntries_denotes {es : List (String × String)}
    (hrest : c.rest = '\x7b' :: (List.intercalate [','] (es.map (entryText literal)) ++ '\x7d' :: rest)) :
    ∃ c', readEntries c = .ok (es, c') ∧ c'.rest = rest := by
  have hnext := Cursor.next_rest_of_cons hrest
  have hitems : ∃ c', entryItems (c.rest.length + 1) [] c.next = .ok (es.reverse, c') ∧ c'.rest = rest := by
    cases es with
    | nil =>
      refine ⟨c.next.next, ?_, Cursor.next_rest_of_cons hnext⟩
      simp only [entryItems, nextKey_end _ hnext, bind, Except.bind, Cursor.skipSpace_of_cons hnext rfl]
      rfl
    | cons e es =>
      have htext : c.next.rest = entryText literal e ++ (behindEntry literal es ++ rest) := by
        rw [hnext, ← List.append_assoc, ← intercalate_entries, List.append_assoc, List.singleton_append]
      have hlength : es.length < c.rest.length := by
        have hbehind : es.length < (behindEntry literal es).length := length_behindEntry es
        rw [Cursor.next_rest, hrest, List.tail_cons] at htext
        rw [hrest, htext, List.length_cons, List.length_append, List.length_append]
        omega
      rw [entryText, List.append_assoc, List.cons_append] at htext
      obtain ⟨k, hkey, hk⟩ := nextKey_first (hliteral e.1) htext
      obtain ⟨v, hstep, hv⟩ := entryItems_entry hliteral [] (n := c.rest.length) hkey hk
      have hone : [e].isEmpty = false := rfl
      obtain ⟨c', hrest', hend⟩ := entryItems_behind hliteral hone hv hlength
      exact ⟨c', by rw [hstep, hrest', List.reverse_cons], hend⟩
  obtain ⟨c', hread, hend⟩ := hitems
  refine ⟨c', ?_, hend⟩
  simp only [readEntries, toValue_of_cons hrest rfl, Cursor.peek?_of_cons hrest, hread, bind, Except.bind,
    List.reverse_reverse]
  rfl

end

/-! ## Records -/

/-- **A record whose only field holds entries** is read as that field. -/
theorem readAll_record {literal : String → List Char} (hliteral : ∀ s, Denotes (literal s) s)
    {record : Record} {field : String} (hfields : record.fields = [(field, .entries)])
    {es : List (String × String)} {text : String}
    (htext : text.toList = '\x7b' :: (literal field ++ ':' ::
      ('\x7b' :: (List.intercalate [','] (es.map (entryText literal)) ++ ['\x7d', '\x7d'])))) :
    readAll record.read text = .ok [(field, .entries es)] := by
  have hstart : (Cursor.ofText text).rest = _ := htext
  generalize hc : Cursor.ofText text = c at hstart
  obtain ⟨k, hkey, hk⟩ := nextKey_first (hliteral field) (Cursor.next_rest_of_cons hstart)
  obtain ⟨c', hentries, hend⟩ := readEntries_denotes hliteral (Cursor.next_rest_of_cons hk)
  have hlast : c'.next.rest = [] := Cursor.next_rest_of_cons hend
  have hlookup : record.fields.lookup field = some .entries := by
    rw [hfields, List.lookup_cons_self]
  have hmissing : record.missing? [(field, .entries es)] = none := by
    rw [Record.missing?, hfields, List.find?_singleton, List.lookup_cons_self]
    split
    · rfl
    · rfl
  obtain ⟨n, hn⟩ : ∃ n, c.rest.length = n + 1 := ⟨_, by rw [hstart, List.length_cons]⟩
  have hbehind : record.named (n + 1) false [(field, .entries es)] c' = .ok ([(field, .entries es)], c'.next) := by
    simp only [Record.named, nextKey_end _ hend, bind, Except.bind, hmissing, Cursor.skipSpace_of_cons hend rfl]
    rfl
  have hread : record.read c = .ok ([(field, .entries es)], c'.next) := by
    simp only [Record.read, toValue_of_cons hstart rfl, Cursor.peek?_of_cons hstart, bind, Except.bind, hn]
    rw [Record.named]
    simp only [hkey, bind, Except.bind, hlookup, List.lookup_nil, Option.isSome_none, colon_eq hk, readDatum,
      hentries, Except.map, hbehind]
    rfl
  have hspace : c'.next.skipSpace = c'.next := Cursor.skipSpace_eq (by rw [hlast]; exact nofun)
  simp only [readAll, hc, hread, hspace, hlast, bind, Except.bind]
  rfl

end Vitrine.Json
