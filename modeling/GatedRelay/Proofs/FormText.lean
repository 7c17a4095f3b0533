import GatedRelay.Proofs.Encoding
import GatedRelay.Web.Form
import Mathlib.Data.List.Induction
import Mathlib.Data.List.Nodup
import Mathlib.Data.List.TakeWhile

/-!
# Form fields and their text

The text of form fields gives back every name with all its values in order. A body is refused if
and only if a percent sign in it is not followed by two hexadecimal digits.
-/

namespace GatedRelay.Form

/-! ### Escapes -/

def IsHexDigit (b : UInt8) : Prop :=
  byte '0' ≤ b ∧ b ≤ byte '9' ∨ byte 'A' ≤ b ∧ b ≤ byte 'F' ∨ byte 'a' ≤ b ∧ b ≤ byte 'f'

instance (b : UInt8) : Decidable (IsHexDigit b) := inferInstanceAs (Decidable (_ ∨ _ ∨ _))

/-- Whether each percent sign is followed by two hexadecimal digits. -/
def WellEscaped (body : Bytes) : Prop :=
  ∀ before after, body = before ++ byte '%' :: after →
    ∃ a b rest, after = a :: b :: rest ∧ IsHexDigit a ∧ IsHexDigit b

lemma forall_byte (P : UInt8 → Prop) (h : ∀ n < 256, P (UInt8.ofNat n)) (b : UInt8) : P b := by
  have hb := h b.toNat b.toNat_lt
  rwa [UInt8.ofNat_toNat] at hb

lemma hexValue?_isSome_iff (b : UInt8) : (hexValue? b).isSome = true ↔ IsHexDigit b :=
  forall_byte (fun b => (hexValue? b).isSome = true ↔ IsHexDigit b) (by decide +kernel) b

lemma startsWithHex_iff {bs : Bytes} :
    startsWithHex bs = true ↔ ∃ a b rest, bs = a :: b :: rest ∧ IsHexDigit a ∧ IsHexDigit b := by
  rcases bs with _ | ⟨a, _ | ⟨b, rest⟩⟩
  · simp [startsWithHex]
  · simp [startsWithHex]
  · simp [startsWithHex, hexValue?_isSome_iff]

lemma wellEscaped_cons {b : UInt8} {rest : Bytes} :
    WellEscaped (b :: rest) ↔
      (b = byte '%' → startsWithHex rest = true) ∧ WellEscaped rest := by
  constructor
  · intro h
    constructor
    · rintro rfl
      exact startsWithHex_iff.mpr (h [] rest rfl)
    · rintro before after rfl
      exact h (b :: before) after rfl
  · rintro ⟨hb, hrest⟩ before after he
    cases before with
    | nil =>
      obtain ⟨rfl, rfl⟩ := List.cons.inj he
      exact startsWithHex_iff.mp (hb rfl)
    | cons c before =>
      obtain ⟨-, he⟩ := List.cons.inj he
      exact hrest before after he

lemma badEscape?_eq_none_iff {body : Bytes} : badEscape? body = none ↔ WellEscaped body := by
  induction body with
  | nil => exact iff_of_true rfl (by simp [WellEscaped])
  | cons b rest ih =>
    rw [wellEscaped_cons, badEscape?, ← ih]
    by_cases hb : b = byte '%'
    · cases h : startsWithHex rest <;> simp [hb]
    · simp [hb]

lemma exists_parse_ok_iff {body : Bytes} :
    (∃ fields, parse body = .ok fields) ↔ WellEscaped body := by
  rw [← badEscape?_eq_none_iff, parse]
  cases badEscape? body <;> simp

/-- A body is refused for an escape that is none, and for nothing else. -/
lemma exists_parse_error_iff {body : Bytes} :
    (∃ found, parse body = .error found) ↔ ¬WellEscaped body := by
  rw [← badEscape?_eq_none_iff, parse]
  cases badEscape? body <;> simp

/-! ### Texts -/

/-- Letters, digits and a few marks stand for themselves. -/
def standsForItself (b : UInt8) : Bool :=
  (byte 'a' ≤ b && b ≤ byte 'z') || (byte 'A' ≤ b && b ≤ byte 'Z') ||
    (byte '0' ≤ b && b ≤ byte '9') || b = byte '*' || b = byte '-' || b = byte '.' || b = byte '_'

/-- The digit of a number below sixteen, with capital letters. -/
def hexDigit (n : Nat) : UInt8 := UInt8.ofNat (if n < 10 then 48 + n else 55 + n)

def escape (b : UInt8) : Bytes :=
  if b = byte ' ' then [byte '+']
  else if standsForItself b then [b]
  else [byte '%', hexDigit (b.toNat / 16), hexDigit (b.toNat % 16)]

/-- A name or a value as it stands in a form. -/
def writeText (s : String) : Bytes := (Utf8.ofString s).flatMap escape

def writePair (p : String × String) : Bytes := writeText p.1 ++ byte '=' :: writeText p.2

/-- The form of names with values. -/
def write (ps : List (String × String)) : Bytes := [byte '&'].intercalate (ps.map writePair)

/-- Whether a byte has no meaning of its own in a form. -/
def IsUnmarked (b : UInt8) : Prop :=
  b ≠ byte '+' ∧ b ≠ byte '%' ∧ b ≠ byte '&' ∧ b ≠ byte '='

instance (b : UInt8) : Decidable (IsUnmarked b) := inferInstanceAs (Decidable (_ ∧ _ ∧ _ ∧ _))

lemma isUnmarked_of_standsForItself {b : UInt8} (h : standsForItself b = true) : IsUnmarked b :=
  forall_byte (fun b => standsForItself b = true → IsUnmarked b) (by decide +kernel) b h

lemma isUnmarked_hexDigit {n : Nat} (h : n < 16) : IsUnmarked (hexDigit n) :=
  (by decide +kernel : ∀ n < 16, IsUnmarked (hexDigit n)) n h

lemma hexValue?_hexDigit {n : Nat} (h : n < 16) : hexValue? (hexDigit n) = some n :=
  (by decide +kernel : ∀ n < 16, hexValue? (hexDigit n) = some n) n h

lemma plusToSpace_of_ne {b : UInt8} (h : b ≠ byte '+') : plusToSpace b = b := if_neg h

/-- A byte is written as a plus sign, as itself or as two digits. -/
lemma escape_cases (b : UInt8) :
    b = byte ' ' ∧ escape b = [byte '+'] ∨ IsUnmarked b ∧ escape b = [b] ∨
      ∃ m n, m < 16 ∧ n < 16 ∧ 16 * m + n = b.toNat ∧
        escape b = [byte '%', hexDigit m, hexDigit n] := by
  unfold escape
  split_ifs with hspace hself
  · exact .inl ⟨hspace, rfl⟩
  · exact .inr (.inl ⟨isUnmarked_of_standsForItself hself, rfl⟩)
  · have hhigh : b.toNat / 16 < 16 := Nat.div_lt_of_lt_mul b.toNat_lt
    have hlow : b.toNat % 16 < 16 := Nat.mod_lt _ (by decide)
    exact .inr (.inr ⟨_, _, hhigh, hlow, Nat.div_add_mod _ _, rfl⟩)

lemma ne_separator_of_mem_escape {b c : UInt8} (h : c ∈ escape b) :
    c ≠ byte '&' ∧ c ≠ byte '=' := by
  obtain ⟨-, he⟩ | ⟨hb, he⟩ | ⟨m, n, hm, hn, -, he⟩ := escape_cases b
  · rw [he, List.mem_singleton] at h
    rw [h]
    decide
  · rw [he, List.mem_singleton] at h
    exact h ▸ hb.2.2
  · rw [he] at h
    rcases List.mem_cons.mp h with rfl | h
    · decide
    rcases List.mem_cons.mp h with rfl | h
    · exact (isUnmarked_hexDigit hm).2.2
    · rw [List.mem_singleton.mp h]
      exact (isUnmarked_hexDigit hn).2.2

lemma ne_separator_of_mem_writeText {s : String} {c : UInt8} (h : c ∈ writeText s) :
    c ≠ byte '&' ∧ c ≠ byte '=' := by
  obtain ⟨b, -, hc⟩ := List.mem_flatMap.mp h
  exact ne_separator_of_mem_escape hc

lemma unescape_cons {b : UInt8} (h : b ≠ byte '%') (rest : Bytes) :
    unescape (b :: rest) = b :: unescape rest := by
  rcases rest with _ | ⟨c, _ | ⟨d, rest⟩⟩
  · rfl
  · rfl
  · rw [unescape, if_neg h]

lemma unescape_percent {b c : UInt8} {m n : Nat} (hb : hexValue? b = some m)
    (hc : hexValue? c = some n) (rest : Bytes) :
    unescape (byte '%' :: b :: c :: rest) = UInt8.ofNat (16 * m + n) :: unescape rest := by
  rw [unescape, if_pos rfl, hb, hc]

/-- A byte comes back from its escape, whatever follows. -/
lemma unescape_escape (b : UInt8) (rest : Bytes) :
    unescape ((escape b).map plusToSpace ++ rest) = b :: unescape rest := by
  obtain ⟨rfl, he⟩ | ⟨hb, he⟩ | ⟨m, n, hm, hn, hmn, he⟩ := escape_cases b
  · rw [he]
    exact unescape_cons (by decide) rest
  · rw [he, List.map_singleton, plusToSpace_of_ne hb.1]
    exact unescape_cons hb.2.1 rest
  · have hmap : [byte '%', hexDigit m, hexDigit n].map plusToSpace =
        [byte '%', hexDigit m, hexDigit n] := by
      simp only [List.map_cons, List.map_nil, plusToSpace_of_ne (isUnmarked_hexDigit hm).1,
        plusToSpace_of_ne (isUnmarked_hexDigit hn).1]
      rfl
    rw [he, hmap]
    refine (unescape_percent (hexValue?_hexDigit hm) (hexValue?_hexDigit hn) rest).trans ?_
    rw [hmn, UInt8.ofNat_toNat]

lemma unescape_flatMap_escape (bs : Bytes) :
    unescape ((bs.flatMap escape).map plusToSpace) = bs := by
  induction bs with
  | nil => rfl
  | cons b rest ih => rw [List.flatMap_cons, List.map_append, unescape_escape, ih]

lemma component_writeText (s : String) : component (writeText s) = s := by
  rw [component, writeText, unescape_flatMap_escape, Utf8.decodeLossy_ofString]

lemma badEscape?_cons {b : UInt8} (h : b ≠ byte '%') (rest : Bytes) :
    badEscape? (b :: rest) = badEscape? rest := by
  rw [badEscape?, if_neg fun hb => h hb.1]

lemma badEscape?_escape (b : UInt8) (rest : Bytes) :
    badEscape? (escape b ++ rest) = badEscape? rest := by
  obtain ⟨-, he⟩ | ⟨hb, he⟩ | ⟨m, n, hm, hn, -, he⟩ := escape_cases b
  · rw [he]
    exact badEscape?_cons (by decide) rest
  · rw [he]
    exact badEscape?_cons hb.2.1 rest
  · have hstarts : startsWithHex (hexDigit m :: hexDigit n :: rest) = true := by
      simp [startsWithHex, hexValue?_hexDigit hm, hexValue?_hexDigit hn]
    have hdigits : badEscape? (hexDigit m :: hexDigit n :: rest) = badEscape? rest := by
      rw [badEscape?_cons (isUnmarked_hexDigit hm).2.1,
        badEscape?_cons (isUnmarked_hexDigit hn).2.1]
    rw [he, ← hdigits]
    simp [badEscape?, hstarts]

lemma badEscape?_writeText (s : String) (rest : Bytes) :
    badEscape? (writeText s ++ rest) = badEscape? rest := by
  rw [writeText]
  induction Utf8.ofString s with
  | nil => rfl
  | cons b bs ih => rw [List.flatMap_cons, List.append_assoc, badEscape?_escape, ih]

/-! ### Pairs -/

lemma pair_writePair (p : String × String) : pair (writePair p) = p := by
  have hname : ∀ c ∈ writeText p.1, decide (c ≠ byte '=') = true := fun c hc =>
    decide_eq_true (ne_separator_of_mem_writeText hc).2
  have htake : (writePair p).takeWhile (· ≠ byte '=') = writeText p.1 := by
    rw [writePair, List.takeWhile_append_of_pos hname, List.takeWhile_cons_of_neg (by simp),
      List.append_nil]
  have hdrop : (writePair p).dropWhile (· ≠ byte '=') = byte '=' :: writeText p.2 := by
    rw [writePair, List.dropWhile_append_of_pos hname, List.dropWhile_cons_of_neg (by simp)]
  rw [pair, htake, hdrop, List.drop_one, List.tail_cons, component_writeText, component_writeText]

lemma ampersand_notMem_writePair (p : String × String) : byte '&' ∉ writePair p := by
  intro hmem
  rcases List.mem_append.mp hmem with hmem | hmem
  · exact (ne_separator_of_mem_writeText hmem).1 rfl
  · rcases List.mem_cons.mp hmem with heq | hmem
    · exact absurd heq (by decide)
    · exact (ne_separator_of_mem_writeText hmem).1 rfl

lemma badEscape?_writePair (p : String × String) (rest : Bytes) :
    badEscape? (writePair p ++ rest) = badEscape? rest := by
  rw [writePair, List.append_assoc, badEscape?_writeText, List.cons_append,
    badEscape?_cons (by decide), badEscape?_writeText]

lemma splitOn_ne_nil (separator : UInt8) (bs : Bytes) : splitOn separator bs ≠ [] := by
  cases bs with
  | nil => exact List.cons_ne_nil _ _
  | cons b rest =>
    rw [splitOn]
    split
    · exact List.cons_ne_nil _ _
    · split <;> exact List.cons_ne_nil _ _

lemma splitOn_of_notMem {separator : UInt8} {p : Bytes} (h : separator ∉ p) :
    splitOn separator p = [p] := by
  induction p with
  | nil => rfl
  | cons b p ih =>
    have hb := List.ne_of_not_mem_cons h
    have hp := List.not_mem_of_not_mem_cons h
    rw [splitOn, ih hp]
    exact if_neg hb.symm

lemma splitOn_append {separator : UInt8} {p : Bytes} (h : separator ∉ p) (rest : Bytes) :
    splitOn separator (p ++ separator :: rest) = p :: splitOn separator rest := by
  induction p with
  | nil =>
    obtain ⟨q, qs, hq⟩ := List.exists_cons_of_ne_nil (splitOn_ne_nil separator rest)
    rw [List.nil_append, splitOn, hq]
    exact if_pos rfl
  | cons b p ih =>
    have hb := List.ne_of_not_mem_cons h
    have hp := List.not_mem_of_not_mem_cons h
    rw [List.cons_append, splitOn, ih hp]
    exact if_neg hb.symm

lemma write_singleton (p : String × String) : write [p] = writePair p := by
  simp [write]

lemma write_cons_cons (p q : String × String) (rest : List (String × String)) :
    write (p :: q :: rest) = writePair p ++ byte '&' :: write (q :: rest) := by
  simp [write, List.intercalate_cons_cons]

lemma badEscape?_write (ps : List (String × String)) : badEscape? (write ps) = none := by
  induction ps with
  | nil => rfl
  | cons p rest ih =>
    cases rest with
    | nil =>
      have hpair := badEscape?_writePair p []
      rw [List.append_nil] at hpair
      rw [write_singleton]
      exact hpair
    | cons q rest =>
      rw [write_cons_cons, badEscape?_writePair, badEscape?_cons (by decide), ih]

lemma splitOn_write {ps : List (String × String)} (h : ps ≠ []) :
    splitOn (byte '&') (write ps) = ps.map writePair := by
  induction ps with
  | nil => exact absurd rfl h
  | cons p rest ih =>
    cases rest with
    | nil =>
      rw [write_singleton, splitOn_of_notMem (ampersand_notMem_writePair p)]
      rfl
    | cons q rest =>
      rw [write_cons_cons, splitOn_append (ampersand_notMem_writePair p),
        ih (List.cons_ne_nil _ _)]
      rfl

/-- Even a pair of empty texts is written, so no pair is lost. -/
lemma pairs_write (ps : List (String × String)) : pairs (write ps) = ps := by
  by_cases h : ps = []
  · subst h
    rfl
  have hfilter : ∀ bs ∈ ps.map writePair, (!bs.isEmpty) = true := by
    intro bs hbs
    obtain ⟨p, -, rfl⟩ := List.mem_map.mp hbs
    simp [writePair]
  rw [pairs, splitOn_write h, List.filter_eq_self.mpr hfilter, List.map_map]
  exact (List.map_congr_left fun p _ => pair_writePair p).trans (List.map_id ps)

/-! ### Fields -/

/-- The values of a name, in order. -/
def valuesOf (name : String) (ps : List (String × String)) : List String :=
  (ps.filter fun p => p.1 == name).map Prod.snd

lemma lookup_cons (n : String) (f : String × List String) (rest : Fields) :
    List.lookup n (f :: rest) = if n = f.1 then some f.2 else List.lookup n rest := by
  obtain ⟨name, values⟩ := f
  by_cases hn : n = name
  · rw [hn, List.lookup_cons_self, if_pos rfl]
  · rw [List.lookup_cons, beq_false_of_ne hn, if_neg hn]

lemma lookup_add (n name value : String) (fields : Fields) :
    (add name value fields).lookup n =
      if n = name then some ((fields.lookup name).getD [] ++ [value]) else fields.lookup n := by
  induction fields with
  | nil => exact lookup_cons n (name, [value]) []
  | cons f rest ih =>
    rw [add, lookup_cons name, lookup_cons n f]
    by_cases hf : f.1 = name
    · rw [if_pos hf, if_pos hf.symm, lookup_cons, hf]
      by_cases hn : n = name
      · rw [if_pos hn, if_pos hn]
        rfl
      · rw [if_neg hn, if_neg hn, if_neg hn]
    · rw [if_neg hf, if_neg (Ne.symm hf), lookup_cons, ih]
      by_cases hn : n = f.1
      · rw [if_pos hn, if_neg (hn ▸ hf), if_pos hn]
      · rw [if_neg hn, if_neg hn]

lemma mem_names_add {n name value : String} {fields : Fields} :
    n ∈ (add name value fields).map Prod.fst ↔ n = name ∨ n ∈ fields.map Prod.fst := by
  induction fields with
  | nil => simp [add]
  | cons f rest ih =>
    rw [add]
    split_ifs with hf
    · subst hf
      simp
    · rw [List.map_cons, List.mem_cons, ih, List.map_cons, List.mem_cons, or_left_comm]

lemma nodup_add {name value : String} {fields : Fields} (h : (fields.map Prod.fst).Nodup) :
    ((add name value fields).map Prod.fst).Nodup := by
  induction fields with
  | nil => exact List.nodup_singleton _
  | cons f rest ih =>
    obtain ⟨hf, hrest⟩ := List.nodup_cons.mp h
    rw [add]
    split_ifs with hname
    · exact h
    · refine List.nodup_cons.mpr ⟨fun hmem => ?_, ih hrest⟩
      exact (mem_names_add.mp hmem).elim hname hf

lemma collect_concat (ps : List (String × String)) (p : String × String) :
    collect (ps ++ [p]) = add p.1 p.2 (collect ps) := by
  rw [collect, List.foldl_append]
  rfl

lemma valuesOf_concat (name : String) (ps : List (String × String)) (p : String × String) :
    valuesOf name (ps ++ [p]) =
      if name = p.1 then valuesOf name ps ++ [p.2] else valuesOf name ps := by
  rw [valuesOf, List.filter_append, List.map_append]
  by_cases hname : name = p.1
  · rw [if_pos hname, List.filter_singleton, hname]
    simp [valuesOf]
  · have hp : (p.1 == name) = false := beq_false_of_ne (Ne.symm hname)
    rw [if_neg hname, List.filter_singleton, hp]
    exact List.append_nil _

lemma lookup_collect (name : String) (ps : List (String × String)) :
    (collect ps).lookup name = if valuesOf name ps = [] then none else some (valuesOf name ps) := by
  induction ps using List.reverseRecOn with
  | nil => rfl
  | append_singleton ps p ih =>
    rw [collect_concat, lookup_add, valuesOf_concat]
    by_cases hname : name = p.1
    · have hvalues : ((collect ps).lookup name).getD [] = valuesOf name ps := by
        rw [ih]
        split_ifs with hnil
        · exact hnil.symm
        · rfl
      rw [if_pos hname, if_pos hname, ← hname, hvalues, if_neg (by simp)]
    · rw [if_neg hname, if_neg hname, ih]

lemma nodup_collect (ps : List (String × String)) : ((collect ps).map Prod.fst).Nodup := by
  induction ps using List.reverseRecOn with
  | nil => exact List.nodup_nil
  | append_singleton ps p ih =>
    rw [collect_concat]
    exact nodup_add ih

/-- The fields of a form that was written have each name once, and for it all its values in order.
Any other body is refused if and only if it is not well escaped. -/
theorem parse_write (ps : List (String × String)) (body : Bytes) :
    (∃ fields, parse (write ps) = .ok fields ∧ (fields.map Prod.fst).Nodup ∧
      ∀ name, fields.lookup name =
        if valuesOf name ps = [] then none else some (valuesOf name ps)) ∧
    ((∃ found, parse body = .error found) ↔ ¬WellEscaped body) := by
  refine ⟨⟨collect ps, ?_, nodup_collect ps, fun name => lookup_collect name ps⟩,
    exists_parse_error_iff⟩
  rw [parse, badEscape?_write, pairs_write]

end GatedRelay.Form
