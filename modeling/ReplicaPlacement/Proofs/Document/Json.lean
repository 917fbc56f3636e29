import ReplicaPlacement.Document.Json.Reader
import ReplicaPlacement.Document.Json.Writer
import ReplicaPlacement.Proofs.Outcome
import ReplicaPlacement.Proofs.Text.Numeral

/-!
# JSON is read back as it was written

Values made of texts, truth values, null and natural numbers of 64 bits survive being written on one
line and read again.
-/

namespace ReplicaPlacement.Json

open Text Decimal

/-! ## Texts -/

theorem readUnit?_hexDigits {n : Nat} (h : n < 0x20) :
    readUnit? (hexDigit (n / 16 / 16 / 16 % 16)) (hexDigit (n / 16 / 16 % 16)) (hexDigit (n / 16 % 16))
      (hexDigit (n % 16)) = some n := by
  have hall : ∀ n : Fin 0x20, readUnit? (hexDigit (n / 16 / 16 / 16 % 16))
      (hexDigit (n / 16 / 16 % 16)) (hexDigit (n / 16 % 16)) (hexDigit (n % 16)) = some n.val := by decide
  exact hall ⟨n, h⟩

theorem takePieces_unit {n : Nat} (h : n < 0x20) (cs : List Char) :
    takePieces ('\\' :: 'u' :: (hexDigits 4 n ++ cs)) =
      (takePieces cs).map fun (ps, rest) => (.char (Char.ofNat n) :: ps, rest) := by
  have hhigh : isHighSurrogate n = false := by simp [isHighSurrogate]; omega
  have hlow : isLowSurrogate n = false := by simp [isLowSurrogate]; omega
  simp only [hexDigits, List.nil_append, List.cons_append]
  rw [takePieces, readUnit?_hexDigits h, Option.bind_some, hhigh, hlow]
  rfl

theorem takePieces_plain {c : Char} (h : c ≠ '"') (h' : c ≠ '\\') (hc : 0x20 ≤ c.toNat) (cs : List Char) :
    takePieces (c :: cs) = (takePieces cs).map fun (ps, rest) => (.char c :: ps, rest) := by
  simp [takePieces, h', Nat.not_lt.2 hc]

theorem takePieces_escapeChar (c : Char) (cs : List Char) :
    takePieces (escapeChar c ++ cs) = (takePieces cs).map fun (ps, rest) => (.char c :: ps, rest) := by
  unfold escapeChar
  split
  case h_8 hquote hslash _ _ _ _ _ =>
    split_ifs with hc
    · simpa using takePieces_unit hc cs
    · exact takePieces_plain hquote hslash (Nat.not_lt.1 hc) cs
  all_goals simp [takePieces, simpleEscape?]

theorem takePieces_quoted (cs rest : List Char) :
    takePieces (cs.flatMap escapeChar ++ '"' :: rest) = some (cs.map .char, rest) := by
  induction cs with
  | nil => simp [takePieces]
  | cons c cs ih =>
    rw [List.flatMap_cons, List.append_assoc, takePieces_escapeChar, ih]
    rfl

theorem joinPieces?_char (cs : List Char) : joinPieces? (cs.map .char) = some cs := by
  induction cs with
  | nil => rfl
  | cons c cs ih =>
    rw [List.map_cons, joinPieces?, ih]
    rfl

theorem takeText_quoted (s : String) (rest : List Char) :
    takeText (s.toList.flatMap escapeChar ++ '"' :: rest) = some (some s, rest) := by
  simp [takeText, takePieces_quoted, joinPieces?_char]

theorem toList_quote (s : String) : (quote s).toList = '"' :: (s.toList.flatMap escapeChar ++ ['"']) := by
  simp [quote]

/-! ## Numbers -/

/-- What may follow a value inside of another, or at the end. -/
def Closes (rest : List Char) : Prop := ∀ c ∈ rest.head?, c = ',' ∨ c = ']' ∨ c = '\x7d'

theorem takeWhile_digits {cs rest : List Char} (h : ∀ c ∈ cs, c.isDigit = true) (hrest : Closes rest) :
    (cs ++ rest).takeWhile Char.isDigit = cs ∧ (cs ++ rest).dropWhile Char.isDigit = rest := by
  have hstop : rest.takeWhile Char.isDigit = [] ∧ rest.dropWhile Char.isDigit = rest := by
    cases rest with
    | nil => exact ⟨rfl, rfl⟩
    | cons c rest =>
      have hc : c.isDigit = false := by
        rcases hrest c rfl with rfl | rfl | rfl <;> decide
      simp [hc]
  rw [List.takeWhile_append_of_pos h, List.dropWhile_append_of_pos h, hstop.1, hstop.2, List.append_nil]
  exact ⟨rfl, rfl⟩

theorem takeNumeral_toDigits (n : Nat) {rest : List Char} (hrest : Closes rest) :
    takeNumeral (Nat.toDigits 10 n ++ rest) = some (⟨Nat.toDigits 10 n, none, none⟩, rest) := by
  obtain ⟨htake, hdrop⟩ := takeWhile_digits (isDigit_of_mem_toDigits (n := n)) hrest
  have hzero : ((Nat.toDigits 10 n).head? == some '0' && (Nat.toDigits 10 n).length != 1) = false := by
    cases hhead : (Nat.toDigits 10 n).head? == some '0' with
    | false => rfl
    | true => rw [head?_toDigits (beq_iff_eq.1 hhead)]; rfl
  have hempty : (Nat.toDigits 10 n).isEmpty = false := by simp [Nat.toDigits_ne_nil]
  simp only [takeNumeral, htake, hdrop, hempty, hzero, Bool.or_self, Bool.false_eq_true, if_false]
  cases rest with
  | nil => rfl
  | cons c rest => rcases hrest c rfl with rfl | rfl | rfl <;> rfl

theorem exists_toDigits_eq (n : Nat) : ∃ d ds, Nat.toDigits 10 n = d :: ds ∧ d.isDigit = true := by
  obtain ⟨d, ds, hds⟩ := List.exists_cons_of_ne_nil (Nat.toDigits_ne_nil (n := n) (b := 10))
  exact ⟨d, ds, hds, isDigit_of_mem_toDigits d (hds ▸ List.mem_cons_self)⟩

theorem takeNumber_toDigits {n : Nat} (hn : n < UInt64.size) {rest : List Char} (hrest : Closes rest) :
    takeNumber (Nat.toDigits 10 n ++ rest) = some (.nat n, rest) := by
  have hvalue : numberValue false ⟨Nat.toDigits 10 n, none, none⟩ = .nat n := by
    have hdigits : digitsValue (Nat.toDigits 10 n) = n := by
      rw [digitsValue, readDigits?_toDigits, Option.getD_some]
    have hle : n ≤ 18446744073709551615 := Nat.le_sub_one_of_lt hn
    simp [numberValue, hdigits, hle]
  have hread := takeNumeral_toDigits n hrest
  obtain ⟨d, ds, hds, hd⟩ := exists_toDigits_eq n
  have hsign : d ≠ '-' := by
    rintro rfl
    cases hd
  rw [hds, List.cons_append] at hread ⊢
  rw [takeNumber, hread, Option.map_some, ← hds]
  · exact congrArg (fun v => some (v, rest)) hvalue
  · exact fun _ h => hsign (List.cons.inj h).1

/-! ## Values -/

/-- Made of texts, truth values, null and natural numbers of 64 bits. -/
inductive Plain : Value → Prop where
  | null : Plain .null
  | bool (b : Bool) : Plain (.bool b)
  | nat {n : Nat} (h : n < UInt64.size) : Plain (.nat n)
  | text (s : String) : Plain (.text s)
  | list {items : List Value} (h : ∀ v ∈ items, Plain v) : Plain (.list items)
  | record {fields : List (String × Value)} (h : ∀ f ∈ fields, Plain f.2) : Plain (.record fields)

theorem compactItems_eq_map (items : List Value) : compactItems items = items.map compact := by
  induction items with
  | nil => rfl
  | cons v vs ih => rw [compactItems, ih, List.map_cons]

theorem compactFields_eq_map (fields : List (String × Value)) :
    compactFields fields = fields.map compactField := by
  induction fields with
  | nil => rfl
  | cons f fs ih => rw [compactFields, ih, List.map_cons]

theorem commaSeparated_cons (p q : String) (parts : List String) :
    (commaSeparated (p :: q :: parts)).toList =
      p.toList ++ ',' :: (commaSeparated (q :: parts)).toList := by
  simp [commaSeparated]

theorem exists_joined_eq {p : String} {c : Char} {cs : List Char} (h : p.toList = c :: cs)
    (parts : List String) : ∃ cs, (commaSeparated (p :: parts)).toList = c :: cs := by
  cases parts with
  | nil => exact ⟨cs, by simpa [commaSeparated] using h⟩
  | cons q parts => exact ⟨_, by rw [commaSeparated_cons, h]; rfl⟩

/-- The value is read wherever its text stands, with two calls at most for each character. -/
def Reads (v : Value) : Prop := ∀ (fuel : Nat) (rest : List Char), Closes rest →
  2 * (compact v).toList.length ≤ fuel → takeValue fuel ((compact v).toList ++ rest) = some (v, rest)

theorem skipBlanks_cons {c : Char} (h : isBlank c = false) (cs : List Char) :
    skipBlanks (c :: cs) = c :: cs := by
  simp [skipBlanks, h]

theorem takeItems_compact {v : Value} {vs : List Value} (h : ∀ w ∈ v :: vs, Reads w) (fuel : Nat)
    (rest : List Char) (hfuel : 2 * (commaSeparated ((v :: vs).map compact)).toList.length < fuel) :
    takeItems fuel ((commaSeparated ((v :: vs).map compact)).toList ++ ']' :: rest) =
      some (v :: vs, rest) := by
  induction vs generalizing v fuel with
  | nil =>
    obtain ⟨fuel, rfl⟩ := Nat.exists_eq_add_one_of_ne_zero (Nat.ne_zero_of_lt hfuel)
    have hone : commaSeparated ([v].map compact) = compact v := String.intercalate_singleton
    rw [hone] at hfuel ⊢
    have hv := h v List.mem_cons_self fuel (']' :: rest) (by simp [Closes]) (by omega)
    rw [takeItems, hv, Option.bind_some]
    simp only [skipBlanks_cons (c := ']') rfl]
  | cons w ws ih =>
    obtain ⟨fuel, rfl⟩ := Nat.exists_eq_add_one_of_ne_zero (Nat.ne_zero_of_lt hfuel)
    obtain ⟨hv, hws⟩ := List.forall_mem_cons.1 h
    have hsplit : (commaSeparated ((v :: w :: ws).map compact)).toList =
        (compact v).toList ++ ',' :: (commaSeparated ((w :: ws).map compact)).toList :=
      commaSeparated_cons _ _ _
    rw [hsplit] at hfuel ⊢
    simp only [List.length_append, List.length_cons] at hfuel
    have hfirst := hv fuel (',' :: ((commaSeparated ((w :: ws).map compact)).toList ++ ']' :: rest))
      (by simp [Closes]) (by omega)
    have hothers := ih hws fuel (by omega)
    rw [List.append_assoc, List.cons_append, takeItems, hfirst, Option.bind_some]
    simp only [skipBlanks_cons (c := ',') rfl, hothers, Option.map_some]

theorem toList_compactField (f : String × Value) : (compactField f).toList =
    '"' :: (f.1.toList.flatMap escapeChar ++ '"' :: ':' :: (compact f.2).toList) := by
  obtain ⟨k, v⟩ := f
  simp [compactField, quote]

theorem takeFields_compactField {f : String × Value} (hf : Reads f.2) {fuel : Nat} (rest : List Char)
    (hfuel : 2 * (compactField f).toList.length ≤ fuel) :
    takeFields (fuel + 1) ((compactField f).toList ++ ',' :: rest) =
        (takeFields fuel rest).map (fun (fs, rest) => ((some f.1, f.2) :: fs, rest)) ∧
      takeFields (fuel + 1) ((compactField f).toList ++ '\x7d' :: rest) =
        some ([(some f.1, f.2)], rest) := by
  rw [toList_compactField] at hfuel ⊢
  simp only [List.length_append, List.length_cons] at hfuel
  have hcomma := hf fuel (',' :: rest) (by simp [Closes]) (by omega)
  have hbrace := hf fuel ('\x7d' :: rest) (by simp [Closes]) (by omega)
  constructor
  all_goals
    rw [List.cons_append, List.append_assoc, List.cons_append, List.cons_append, takeFields]
    simp only [skipBlanks_cons (c := '"') rfl, takeText_quoted, Option.bind_some,
      skipBlanks_cons (c := ':') rfl, hcomma, hbrace, skipBlanks_cons (c := ',') rfl,
      skipBlanks_cons (c := '\x7d') rfl]

theorem takeFields_compact {f : String × Value} {fs : List (String × Value)}
    (h : ∀ g ∈ f :: fs, Reads g.2) (fuel : Nat) (rest : List Char)
    (hfuel : 2 * (commaSeparated ((f :: fs).map compactField)).toList.length < fuel) :
    takeFields fuel ((commaSeparated ((f :: fs).map compactField)).toList ++ '\x7d' :: rest) =
      some ((f :: fs).map fun g => (some g.1, g.2), rest) := by
  induction fs generalizing f fuel with
  | nil =>
    obtain ⟨fuel, rfl⟩ := Nat.exists_eq_add_one_of_ne_zero (Nat.ne_zero_of_lt hfuel)
    have hone : commaSeparated ([f].map compactField) = compactField f := String.intercalate_singleton
    rw [hone] at hfuel ⊢
    exact (takeFields_compactField (h f List.mem_cons_self) rest (by omega)).2
  | cons g gs ih =>
    obtain ⟨fuel, rfl⟩ := Nat.exists_eq_add_one_of_ne_zero (Nat.ne_zero_of_lt hfuel)
    obtain ⟨hf, hgs⟩ := List.forall_mem_cons.1 h
    have hsplit : (commaSeparated ((f :: g :: gs).map compactField)).toList =
        (compactField f).toList ++ ',' :: (commaSeparated ((g :: gs).map compactField)).toList :=
      commaSeparated_cons _ _ _
    rw [hsplit] at hfuel ⊢
    simp only [List.length_append, List.length_cons] at hfuel
    have hothers := ih hgs fuel (by omega)
    rw [List.append_assoc, List.cons_append, (takeFields_compactField hf _ (by omega)).1, hothers]
    rfl

theorem recordOf_some (fields : List (String × Value)) :
    recordOf (fields.map fun f => (some f.1, f.2)) = .record fields := by
  have hkeys : (fields.map fun f => (some f.1, f.2)).mapM (fun f => f.1.map fun k => (k, f.2)) =
      some fields := Outcome.mapM_map_eq_pure fun _ _ => rfl
  unfold recordOf
  split
  next hfields =>
    cases hfields.symm.trans hkeys
    rfl
  next hnone => cases hnone.symm.trans hkeys

theorem isBlank_of_isDigit {d : Char} (hd : d.isDigit = true) : isBlank d = false := by
  rw [Bool.eq_false_iff]
  intro h
  simp only [isBlank, Bool.or_eq_true, beq_iff_eq] at h
  rcases h with ((rfl | rfl) | rfl) | rfl <;> cases hd

theorem takeValue_of_isDigit {d : Char} (hd : d.isDigit = true) (fuel : Nat) (cs : List Char) :
    takeValue (fuel + 1) (d :: cs) = takeNumber (d :: cs) := by
  rw [takeValue, skipBlanks_cons (isBlank_of_isDigit hd)]
  split
  case h_7 => rfl
  all_goals
    next heq =>
      obtain ⟨rfl, -⟩ := List.cons.inj heq
      cases hd

theorem takeValue_items {fuel : Nat} {c : Char} {cs rest : List Char} {items : List Value}
    (hblank : isBlank c = false) (hc : c ≠ ']') (hitems : takeItems fuel (c :: cs) = some (items, rest)) :
    takeValue (fuel + 1) ('[' :: c :: cs) = some (.list items, rest) := by
  rw [takeValue, skipBlanks_cons rfl]
  simp only [skipBlanks_cons hblank]
  split
  · next heq => exact absurd (List.cons.inj heq).1 hc
  · rw [hitems]
    rfl

theorem takeValue_fields {fuel : Nat} {cs rest : List Char} {fields : List (String × Value)}
    (hfields : takeFields fuel ('"' :: cs) = some (fields.map fun f => (some f.1, f.2), rest)) :
    takeValue (fuel + 1) ('\x7b' :: '"' :: cs) = some (.record fields, rest) := by
  rw [takeValue, skipBlanks_cons rfl]
  simp only [skipBlanks_cons (c := '"') rfl]
  change (takeFields fuel ('"' :: cs)).map (fun x => (recordOf x.1, x.2)) = _
  rw [hfields, Option.map_some, recordOf_some]

theorem toList_compact_list (items : List Value) : (compact (.list items)).toList =
    '[' :: ((commaSeparated (items.map compact)).toList ++ [']']) := by
  simp [compact, compactItems_eq_map]

theorem toList_compact_record (fields : List (String × Value)) : (compact (.record fields)).toList =
    '\x7b' :: ((commaSeparated (fields.map compactField)).toList ++ ['\x7d']) := by
  simp [compact, compactFields_eq_map]

theorem toList_compact_nat (n : Nat) : (compact (.nat n)).toList = Nat.toDigits 10 n := by
  simp [compact]

theorem exists_compact_eq {v : Value} (h : Plain v) :
    ∃ c cs, (compact v).toList = c :: cs ∧ isBlank c = false ∧ c ≠ ']' := by
  cases h with
  | null => exact ⟨_, _, rfl, rfl, by decide⟩
  | bool b => cases b <;> exact ⟨_, _, rfl, rfl, by decide⟩
  | nat _ =>
    obtain ⟨d, ds, hds, hd⟩ := exists_toDigits_eq _
    refine ⟨d, ds, (toList_compact_nat _).trans hds, isBlank_of_isDigit hd, ?_⟩
    rintro rfl
    cases hd
  | text s => exact ⟨_, _, toList_quote s, rfl, by decide⟩
  | list _ => exact ⟨_, _, toList_compact_list _, rfl, by decide⟩
  | record _ => exact ⟨_, _, toList_compact_record _, rfl, by decide⟩

theorem Reads.of_succ {v : Value} (h : Plain v)
    (hread : ∀ (fuel : Nat) (rest : List Char), Closes rest →
      2 * (compact v).toList.length ≤ fuel + 1 →
      takeValue (fuel + 1) ((compact v).toList ++ rest) = some (v, rest)) : Reads v := by
  intro fuel rest hrest hfuel
  obtain ⟨c, cs, hcs, -⟩ := exists_compact_eq h
  have hpos : fuel ≠ 0 := by
    rw [hcs, List.length_cons] at hfuel
    omega
  obtain ⟨fuel, rfl⟩ := Nat.exists_eq_add_one_of_ne_zero hpos
  exact hread fuel rest hrest hfuel

theorem reads_of_plain {v : Value} (h : Plain v) : Reads v := by
  induction h with
  | null => exact .of_succ .null fun _ _ _ _ => rfl
  | bool b => exact .of_succ (.bool b) fun _ _ _ _ => by cases b <;> rfl
  | @nat n h =>
    refine .of_succ (.nat h) fun fuel rest hrest _ => ?_
    obtain ⟨d, ds, hds, hd⟩ := exists_toDigits_eq n
    have hread := takeNumber_toDigits h hrest
    rw [toList_compact_nat]
    rw [hds, List.cons_append] at hread ⊢
    rw [takeValue_of_isDigit hd, hread]
  | text s =>
    refine .of_succ (.text s) fun fuel rest _ _ => ?_
    rw [compact, toList_quote, List.cons_append, List.append_assoc, takeValue, skipBlanks_cons rfl]
    simp only [List.cons_append, List.nil_append, takeText_quoted, Option.map_some]
    rfl
  | @list items h ih =>
    refine .of_succ (.list h) fun fuel rest _ hfuel => ?_
    rw [toList_compact_list] at hfuel ⊢
    rw [List.cons_append, List.append_assoc]
    cases items with
    | nil => rfl
    | cons v vs =>
      simp only [List.length_cons, List.length_append] at hfuel
      have hitems := takeItems_compact ih fuel rest (by omega)
      -- No item begins with a blank or with the closing bracket.
      obtain ⟨c, _, hv, hblank, hc⟩ := exists_compact_eq (h v List.mem_cons_self)
      obtain ⟨cs, hcs⟩ := exists_joined_eq hv (vs.map compact)
      rw [List.map_cons, hcs, List.cons_append] at hitems ⊢
      exact takeValue_items hblank hc hitems
  | @record fields h ih =>
    refine .of_succ (.record h) fun fuel rest _ hfuel => ?_
    rw [toList_compact_record] at hfuel ⊢
    rw [List.cons_append, List.append_assoc]
    cases fields with
    | nil => rfl
    | cons f fs =>
      simp only [List.length_cons, List.length_append] at hfuel
      have hfields := takeFields_compact ih fuel rest (by omega)
      obtain ⟨cs, hcs⟩ := exists_joined_eq (toList_compactField f) (fs.map compactField)
      rw [List.map_cons, hcs, List.cons_append] at hfields ⊢
      exact takeValue_fields hfields

theorem parse?_compact {v : Value} (h : Plain v) : parse? (compact v) = some v := by
  have hread := reads_of_plain h (2 * (compact v).toList.length + 2) [] (by simp [Closes]) (by omega)
  rw [List.append_nil] at hread
  unfold parse?
  simp only [hread, Option.bind_some]
  rfl

end ReplicaPlacement.Json
