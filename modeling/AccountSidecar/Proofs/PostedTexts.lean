import AccountSidecar.Json.Writer
import AccountSidecar.Proofs.MissingValues
import AccountSidecar.Proofs.NestedTexts
import AccountSidecar.Proofs.SymbolCapacity

/-!
# Posted texts

A plain text, one of printable ASCII without quotes and backslashes, stands between its quotes as it
is and is read back from there, and so are the entries of an object of plain texts
(`Json.read_write_texts`). A request that posts such an object brings its entries
(`Http.Request.fields_posting_texts`). Under a plain key of an object a value may nest too deep for
the reader (`Json.nestsBeyond_of_deep_entry`).
-/

namespace AccountSidecar

namespace Json

/-- Whether a character is written as it stands. -/
def IsPlainChar (c : Char) : Prop := 0x20 ≤ c.toNat ∧ c.toNat < 0x7F ∧ c ≠ '"' ∧ c ≠ '\\'

instance (c : Char) : Decidable (IsPlainChar c) :=
  inferInstanceAs (Decidable (0x20 ≤ c.toNat ∧ c.toNat < 0x7F ∧ c ≠ '"' ∧ c ≠ '\\'))

/-- Whether a text is written as it stands. -/
def IsPlain (s : String) : Prop := ∀ c ∈ s.toList, IsPlainChar c

instance (s : String) : Decidable (IsPlain s) := List.decidableBAll IsPlainChar s.toList

/-- The entries of an object of texts. -/
def textEntries (texts : Keyed String) : Keyed Value := Keyed.mapValues Value.text texts

variable {s : String} {e : String × String} {texts : Keyed String}

/-- The characters of a plain text are written as they are. -/
theorem toList_writtenString (plain : IsPlain s) :
    (writtenString s).toList = '"' :: (s.toList ++ ['"']) := by
  have each : ∀ c ∈ s.toList, writtenChar c = [c] := by
    intro c among
    obtain ⟨low, high, quote, backslash⟩ := plain c among
    have above (d : Char) (control : d.toNat < 0x20) : c ≠ d := by
      rintro rfl
      omega
    simp only [writtenChar, quote, backslash, above '\n' (by decide), above '\r' (by decide),
      above '\t' (by decide), above '\x08' (by decide), above '\x0c' (by decide), if_false]
    rw [if_neg (by simp; omega), if_pos (by omega)]
  have whole : s.toList.flatMap writtenChar = s.toList := by
    rw [List.flatMap_congr each, List.flatMap_singleton']
  simp [writtenString, whole]

/-- A plain text is read up to its closing quote. -/
theorem string_of_plain (plain : IsPlain s) (rest : List Char) :
    string (s.toList ++ '"' :: rest) = .ok (s, rest) := by
  have reads (cs : List Char) (plain : ∀ c ∈ cs, IsPlainChar c) :
      stringFrom none (cs ++ '"' :: rest) = some (cs, rest) := by
    induction cs with
    | nil => rfl
    | cons c cs ih =>
      obtain ⟨low, -, quote, backslash⟩ := plain c List.mem_cons_self
      have later := ih fun c' among => plain c' (List.mem_cons_of_mem c among)
      rw [List.cons_append]
      unfold stringFrom
      split <;> simp_all
  unfold string
  rw [reads s.toList plain]
  simp

/-- The entries of an object are written one after another. -/
theorem toList_writeEntries_cons (plain : IsPlain e.1 ∧ IsPlain e.2) (texts : Keyed String) :
    (writeEntries (textEntries (e :: texts))).toList =
      '"' :: (e.1.toList ++ '"' :: ':' :: ' ' :: '"' :: (e.2.toList ++ '"' ::
        if texts = [] then [] else ',' :: ' ' :: (writeEntries (textEntries texts)).toList)) := by
  have name := toList_writtenString plain.1
  have text := toList_writtenString plain.2
  cases texts <;> simp [textEntries, Keyed.mapValues, writeEntries, write, name, text]

/-- Written entries take a character each at the least. -/
theorem length_le_writeEntries (plain : ∀ e' ∈ e :: texts, IsPlain e'.1 ∧ IsPlain e'.2) :
    texts.length ≤ (writeEntries (textEntries (e :: texts))).toList.length := by
  induction texts generalizing e with
  | nil => exact Nat.zero_le _
  | cons e' more ih =>
    have later := ih fun e'' among => plain e'' (List.mem_cons_of_mem e among)
    rw [toList_writeEntries_cons (plain e List.mem_cons_self)]
    simp only [reduceCtorEq, if_false, List.length_cons, List.length_append]
    omega

/-- A quote is no space. -/
theorem skipSpace_quote (rest : List Char) : skipSpace ('"' :: rest) = '"' :: rest := rfl

/-- Neither is a bracket. -/
theorem skipSpace_bracket (rest : List Char) : skipSpace ('[' :: rest) = '[' :: rest := rfl

/-- A plain key is read up to the value after it. -/
theorem key_of_plain (plain : IsPlain s) (rest : List Char) :
    key ('"' :: (s.toList ++ '"' :: ':' :: ' ' :: rest)) = .ok (s, skipSpace rest) := by
  change (string (s.toList ++ '"' :: ':' :: ' ' :: rest) >>= _) = _
  rw [string_of_plain plain]
  rfl

/-- An object with more brackets under a plain key than the reader goes through nests too deep,
whatever comes after them. -/
theorem nestsBeyond_of_deep_entry (plain : IsPlain s) (limit : Nat) (rest : List Char) :
    nestsBeyond (limit + 1) (String.ofList ('{' :: '"' :: (s.toList ++ '"' :: ':' :: ' ' ::
      (List.replicate (limit + 1) '[' ++ rest)))) = true := by
  rw [nestsBeyond_eq_true_iff, readWithin, fuelFor, String.toList_ofList]
  obtain ⟨fuel, lasts, enough⟩ : ∃ fuel, 2 * limit < fuel ∧
      2 * ('{' :: '"' :: (s.toList ++ '"' :: ':' :: ' ' ::
        (List.replicate (limit + 1) '[' ++ rest))).length + 2 = fuel + 2 := by
    refine ⟨_, ?_, rfl⟩
    simp only [List.length_cons, List.length_append, List.length_replicate]
    omega
  have inner := value_brackets rest lasts
  have entry : entries (fuel + 1) limit [] ('"' :: (s.toList ++ '"' :: ':' :: ' ' ::
      (List.replicate (limit + 1) '[' ++ rest))) = .error .tooDeep := by
    rw [List.replicate_succ, List.cons_append] at inner ⊢
    rw [entries, key_of_plain plain, skipSpace_bracket]
    change (value fuel limit _ >>= _) = _
    rw [inner]
    rfl
  rw [enough]
  change ((entries (fuel + 1) limit [] _ >>= _) >>= _) = _
  rw [entry]
  rfl

/-- A plain text is read as a value. -/
theorem value_of_plain (plain : IsPlain s) (fuel depth : Nat) (rest : List Char) :
    value (fuel + 1) depth ('"' :: (s.toList ++ '"' :: rest)) = .ok (.text s, rest) := by
  change (string (s.toList ++ '"' :: rest) >>= fun r => Except.ok (Value.text r.1, r.2)) = _
  rw [string_of_plain plain]
  rfl

/-- The written entries of an object of plain texts are read one after another. -/
theorem entries_of_plain (plain : ∀ e' ∈ e :: texts, IsPlain e'.1 ∧ IsPlain e'.2)
    (fuel depth : Nat) (seen : Keyed Value) (rest : List Char) :
    entries (fuel + texts.length + 2) depth seen
        ((writeEntries (textEntries (e :: texts))).toList ++ '\x7d' :: rest) =
      .ok (Keyed.merge seen (textEntries (e :: texts)), rest) := by
  induction texts generalizing e seen with
  | nil =>
    obtain ⟨name, text⟩ := plain e List.mem_cons_self
    rw [toList_writeEntries_cons ⟨name, text⟩]
    simp only [if_true, List.cons_append, List.append_assoc, List.nil_append]
    rw [entries, key_of_plain name, skipSpace_quote]
    dsimp only [bind, Except.bind]
    rw [value_of_plain text]
    rfl
  | cons e' more ih =>
    obtain ⟨name, text⟩ := plain e List.mem_cons_self
    have later := ih (fun e'' among => plain e'' (List.mem_cons_of_mem e among))
      (Keyed.put e.1 (.text e.2) seen)
    rw [toList_writeEntries_cons ⟨name, text⟩]
    simp only [reduceCtorEq, if_false, List.cons_append, List.append_assoc]
    rw [entries, key_of_plain name, skipSpace_quote]
    dsimp only [bind, Except.bind]
    rw [List.length_cons, value_of_plain text]
    have next : skipSpace (' ' :: ((writeEntries (textEntries (e' :: more))).toList ++
        '\x7d' :: rest)) =
          (writeEntries (textEntries (e' :: more))).toList ++ '\x7d' :: rest := by
      rw [toList_writeEntries_cons (plain e' (List.mem_cons_of_mem e List.mem_cons_self))]
      rfl
    change entries (fuel + more.length + 2) depth _ (skipSpace (' ' :: _)) = _
    rw [next]
    exact later

/-- An object is written as its entries between braces. -/
theorem toList_write_table (entries : Keyed Value) :
    (write (.table entries)).toList = '\x7b' :: ((writeEntries entries).toList ++ ['\x7d']) := by
  simp [write]

/-- An object of plain texts is read as it was written by every reader that reads objects at all. -/
theorem readWithin_write_texts (limit : Nat)
    (plain : ∀ e' ∈ e :: texts, IsPlain e'.1 ∧ IsPlain e'.2) :
    readWithin (limit + 1) (write (.table (textEntries (e :: texts)))) =
      .ok (.table (Keyed.merge [] (textEntries (e :: texts)))) := by
  have count := length_le_writeEntries plain
  have whole := toList_write_table (textEntries (e :: texts))
  obtain ⟨spare, fuel⟩ : ∃ spare, fuelFor (write (.table (textEntries (e :: texts)))) =
      spare + texts.length + 2 + 1 := by
    have least : texts.length + 3 ≤ fuelFor (write (.table (textEntries (e :: texts)))) := by
      rw [fuelFor, whole, List.length_cons, List.length_append]
      omega
    exact ⟨_, (Nat.sub_add_cancel least).symm⟩
  have object : value (spare + texts.length + 2 + 1) (limit + 1)
      (skipSpace (write (.table (textEntries (e :: texts)))).toList) =
        .ok (.table (Keyed.merge [] (textEntries (e :: texts))), []) := by
    have inside := entries_of_plain plain spare limit [] []
    rw [whole]
    rw [toList_writeEntries_cons (plain e List.mem_cons_self)] at inside ⊢
    exact congrArg (· >>= fun r => Except.ok (Value.table r.1, r.2)) inside
  rw [readWithin, fuel, object]
  rfl

/-- An object of plain texts is read as it was written. -/
theorem read_write_texts (plain : ∀ e' ∈ e :: texts, IsPlain e'.1 ∧ IsPlain e'.2) :
    read (write (.table (textEntries (e :: texts)))) =
      .ok (.table (Keyed.merge [] (textEntries (e :: texts)))) :=
  readWithin_write_texts _ plain

/-- An object of plain texts stops no reader that reads objects at all. -/
theorem nestsBeyond_write_texts (limit : Nat)
    (plain : ∀ e' ∈ e :: texts, IsPlain e'.1 ∧ IsPlain e'.2) :
    nestsBeyond (limit + 1) (write (.table (textEntries (e :: texts)))) = false := by
  rw [nestsBeyond, readWithin_write_texts limit plain]

end Json

namespace Text

/-- The bytes of a text are those of its characters. -/
theorem toList_toUTF8_ofList (cs : List Char) :
    (String.ofList cs).toUTF8.toList = cs.flatMap String.utf8EncodeChar := by
  rw [toList_eq_data]
  simp [List.utf8Encode]

/-- A body that starts with a brace and a quote is read as text in UTF-8. -/
theorem decodeBody?_of_object {s : String} (starts : ['\x7b', '"'] <+: s.toList) :
    decodeBody? s.toUTF8.toList = some s := by
  obtain ⟨cs, whole⟩ := starts
  have bytes : s.toUTF8.toList = 0x7B :: 0x22 :: cs.flatMap String.utf8EncodeChar := by
    rw [← String.ofList_toList (s := s), ← whole, toList_toUTF8_ofList]
    rfl
  -- Which encoding is guessed hangs on the first two bytes, however many follow.
  have detected (rest : List UInt8) :
      Encoding.detect (0x7B :: 0x22 :: rest) = (.utf8, 0x7B :: 0x22 :: rest) := by
    match rest with
    | [] | [_] | _ :: _ :: _ => rfl
  unfold decodeBody?
  rw [bytes, detected, ← bytes, toList_eq_data]
  exact Users.fromUTF8?_toUTF8 s

end Text

namespace Http

/-- The content of a posted object is JSON by its type. -/
theorem Request.isJson_posting (path object : String) : (posting path object).isJson = true := by
  have named : (posting path object).mediaType = "application/json" :=
    (by decide +kernel : Text.lower (Text.strip (String.ofList
      ("application/json".toList.takeWhile (· != ';')))) = "application/json")
  unfold isJson
  rw [named]
  rfl

/-- The text of a posted object is that object. -/
theorem Request.jsonText?_posting {object : String} (path : String)
    (starts : ['\x7b', '"'] <+: object.toList) : (posting path object).jsonText? = some object := by
  have decoded : Text.decodeBody? (posting path object).body = some object :=
    Text.decodeBody?_of_object starts
  rw [jsonText?, isJson_posting, if_pos rfl, decoded]

section Posting

variable {e : String × String} {texts : Keyed String}

/-- The text of a posted object of plain texts is that of the object. -/
theorem Request.jsonText?_posting_texts (path : String)
    (plain : ∀ e' ∈ e :: texts, Json.IsPlain e'.1 ∧ Json.IsPlain e'.2) :
    (posting path (Json.write (.table (Json.textEntries (e :: texts))))).jsonText? =
      some (Json.write (.table (Json.textEntries (e :: texts)))) := by
  apply jsonText?_posting
  rw [Json.toList_write_table, Json.toList_writeEntries_cons (plain e List.mem_cons_self)]
  exact ⟨_, rfl⟩

/-- The fields of a posted object of plain texts are its entries. -/
theorem Request.fields_posting_texts (path : String)
    (plain : ∀ e' ∈ e :: texts, Json.IsPlain e'.1 ∧ Json.IsPlain e'.2) :
    (posting path (Json.write (.table (Json.textEntries (e :: texts))))).fields =
      Keyed.merge [] (Json.textEntries (e :: texts)) := by
  unfold fields
  rw [jsonText?_posting_texts path plain]
  dsimp only
  rw [Json.read_write_texts plain]

/-- A posted object of plain texts can be read by every service that reads objects at all. -/
theorem Request.not_nestsBeyond_posting_texts (path : String) (limit : Nat)
    (plain : ∀ e' ∈ e :: texts, Json.IsPlain e'.1 ∧ Json.IsPlain e'.2) :
    (posting path (Json.write (.table (Json.textEntries (e :: texts))))).nestsBeyond (limit + 1) =
      false := by
  rw [nestsBeyond, jsonText?_posting_texts path plain, Option.any_some,
    Json.nestsBeyond_write_texts limit plain]

end Posting

end Http

end AccountSidecar
