import NgxNats.Verif.JsonStrings

/-!
# Primitive values by their bytes

The tail of `ngx_nats_json_parse_value` walks pointers over the text between `istart` and `pos`.
`Item` has what these functions compute on the bytes of the item alone, and each walk is shown to
be the function of the item that stands there. No other byte of the text matters to a walk.
-/
namespace NgxNats.Json

variable {env : JsonEnv} {b item rest : List UInt8} {ctx : JsonCtx} {istart : Nat}

namespace Item

/-- What the loop of `ngx_nats_json_parse_hex` makes of the digits. -/
def hexLoop : List UInt8 → Nat → Json Nat
  | [], u64 => return u64
  | c :: rest, u64 =>
    match hexDigit c with
    | some digit => hexLoop rest ((u64 * 16 + digit) % 2 ^ 64)
    | none => stop jsonErrSyntax

/-- What `ngx_nats_json_parse_hex` makes of an item. -/
def parseHex (item : List UInt8) : Json JsonValue :=
  if 16 < item.length - 2 then stop jsonErrSyntax
  else do
    let u64 ← hexLoop (item.drop 2) 0
    return .integer (Word.signed u64)

/-- What the digit loop of `ngx_nats_json_parse_int` makes of the digits. -/
def intLoop : List UInt8 → Nat → Json Nat
  | [], u64 => return u64
  | c :: rest, u64 =>
    if c < 48 ∨ 57 < c then stop jsonErrSyntax
    else if 922337203685477580 < u64 then stop jsonErrSyntax
    else intLoop rest ((u64 * 10 + (c.toNat - 48)) % 2 ^ 64)

/-- What `ngx_nats_json_parse_int` makes of an item. -/
def parseInt (item : List UInt8) : Json JsonValue := do
  let neg := item.head? = some 45
  let digits := if neg then item.drop 1 else item
  if digits.length = 0 then stop jsonErrSyntax
  else
    let u64 ← intLoop digits 0
    if neg then
      if 9223372036854775807 < Word.unsigned (u64 - 1) then stop jsonErrSyntax
      else return .integer (Word.signed (-Word.signed u64))
    else if 9223372036854775807 < u64 then stop jsonErrSyntax
    else return .integer u64

/-- What `ngx_nats_json_parse_double` makes of an item. -/
def parseDouble (env : JsonEnv) (item : List UInt8) : Json JsonValue :=
  if 31 < item.length then stop jsonErrSyntax
  else if (env.strtod item).2 ≠ item.length then stop jsonErrSyntax
  else return .double (env.strtod item).1

end Item

/-- What the tail of `ngx_nats_json_parse_value` makes of an item that starts with `c`. -/
def primitive (env : JsonEnv) (item : List UInt8) (c : UInt8) : Json JsonValue :=
  if item.length = 4 ∧ strncasecmp item "null" then return .null
  else if item.length = 4 ∧ strncasecmp item "true" then return .boolean 1
  else if item.length = 5 ∧ strncasecmp item "false" then return .boolean 0
  else if (c < 48 ∨ 57 < c) ∧ c ≠ 46 ∧ c ≠ 43 ∧ c ≠ 45 then stop jsonErrSyntax
  else if c = 48 ∧ item.length = 1 then return .integer 0
  else if c = 48 ∧ 2 < item.length ∧ (item[1]? = some 120 ∨ item[1]? = some 88) then
    Item.parseHex item
  else if item.any fun c => c = 46 || c = 101 || c = 69 then Item.parseDouble env item
  else if c = 48 then stop jsonErrSyntax
  else Item.parseInt item

/-- The loop of `ngx_nats_json_parse_hex` reads the digits that stand there. -/
theorem hexLoop_walk {digits : List UInt8} {p : Nat} (left : b.drop p = digits ++ rest)
    (u64 : Nat) (ctx : JsonCtx) :
    hexLoop (.ofList b) digits.length p u64 ctx = Item.hexLoop digits u64 ctx := by
  induction digits generalizing p u64 with
  | nil => rfl
  | cons c digits ih =>
    have behind : b.drop (p + 1) = digits ++ rest := (drop_head left).2.2
    rw [List.length_cons, hexLoop, Program.bind_ok (byte_head left ctx), Item.hexLoop]
    cases hexDigit c with
    | none => rfl
    | some digit => exact ih behind _

/-- `ngx_nats_json_parse_hex` reads the item only. -/
theorem parseHex_walk (left : b.drop istart = item ++ rest) (marked : 2 ≤ item.length) :
    parseHex (.ofList b) istart (istart + item.length) ctx = Item.parseHex item ctx := by
  have digits : b.drop (istart + 2) = item.drop 2 ++ rest := by
    rw [← List.drop_drop, left, List.drop_append_of_le_length marked]
  have loop := hexLoop_walk digits 0 ctx
  rw [List.length_drop] at loop
  unfold parseHex Item.parseHex
  rw [Nat.add_sub_cancel_left, Program.ite_run, Program.ite_run]
  by_cases long : 16 < item.length - 2
  · rw [if_pos long, if_pos long]
  · rw [if_neg long, if_neg long, Program.bind_run, Program.bind_run, loop]

/-- The digit loop of `ngx_nats_json_parse_int` reads the digits that stand there. -/
theorem intLoop_walk {digits : List UInt8} {p : Nat} (left : b.drop p = digits ++ rest)
    (u64 : Nat) (ctx : JsonCtx) :
    intLoop (.ofList b) digits.length p u64 ctx = Item.intLoop digits u64 ctx := by
  induction digits generalizing p u64 with
  | nil => rfl
  | cons c digits ih =>
    have behind : b.drop (p + 1) = digits ++ rest := (drop_head left).2.2
    rw [List.length_cons, intLoop, Program.bind_ok (byte_head left ctx), Item.intLoop]
    by_cases outside : c < 48 ∨ 57 < c
    · rw [if_pos outside, if_pos outside]
    rw [if_neg outside, if_neg outside]
    by_cases large : 922337203685477580 < u64
    · rw [if_pos large, if_pos large]
    · rw [if_neg large, if_neg large]
      exact ih behind _

/-- `ngx_nats_json_parse_int` reads the item only, and the byte behind an empty one. -/
theorem parseInt_walk {c : UInt8} (left : b.drop istart = item ++ rest)
    (first : (item ++ rest).head? = some c) :
    parseInt (.ofList b) istart (istart + item.length) ctx = Item.parseInt item ctx := by
  obtain ⟨after, split⟩ : ∃ after, item ++ rest = c :: after :=
    ⟨_, (List.cons_head?_tail (Option.mem_def.mpr first)).symm⟩
  unfold parseInt Item.parseInt
  rw [Program.bind_ok (byte_head (left.trans split) ctx)]
  match item with
  | [] =>
    have none_ : istart + 0 - (if c = 45 then istart + 1 else istart) = 0 := by
      split
      · omega
      · omega
    simp only [List.length_nil, none_, if_true]
    rfl
  | head :: digits =>
    cases split
    by_cases minus : c = 45
    · subst minus
      have behind : b.drop (istart + 1) = digits ++ rest := (drop_head left).2.2
      have loop := intLoop_walk behind 0 ctx
      have size : istart + (digits.length + 1) - (istart + 1) = digits.length := by omega
      simp only [if_true, List.head?_cons, List.drop_one, List.tail_cons, List.length_cons, size]
      rw [Program.ite_run, Program.ite_run]
      by_cases empty : digits.length = 0
      · rw [if_pos empty, if_pos empty]
      · rw [if_neg empty, if_neg empty, Program.bind_run, Program.bind_run, loop]
    · have loop := intLoop_walk left 0 ctx
      have unsigned : ¬some c = some 45 := fun is => minus (Option.some.inj is)
      have some_ : ¬(c :: digits).length = 0 := Nat.succ_ne_zero _
      simp only [minus, unsigned, if_false, List.head?_cons, Nat.add_sub_cancel_left]
      rw [if_neg some_, if_neg some_, Program.bind_run, Program.bind_run, loop]

/-- The copy into `temp` is the item, as long as there is room for it and a terminator. -/
theorem copyTemp_walk {p : Nat} (left : b.drop p = item ++ rest) {temp : List UInt8}
    (fits : temp.length + item.length ≤ 31) :
    copyTemp (.ofList b) item.length p temp ctx = (.ok (temp ++ item), ctx) := by
  induction item generalizing p temp with
  | nil =>
    rw [List.length_nil] at fits
    rw [List.length_nil, copyTemp, if_pos (show temp.length < 32 by omega), List.append_nil]
    rfl
  | cons c item ih =>
    rw [List.length_cons] at fits
    have behind : b.drop (p + 1) = item ++ rest := (drop_head left).2.2
    have room : (temp ++ [c]).length + item.length ≤ 31 := by
      rw [List.length_append, List.length_singleton]
      omega
    rw [List.length_cons, copyTemp, Program.bind_ok (byte_head left ctx),
      if_pos (show temp.length < 32 by omega), ih behind room, List.append_assoc]
    rfl

/-- `ngx_nats_json_parse_double` reads the item only. -/
theorem parseDouble_walk (left : b.drop istart = item ++ rest) :
    parseDouble env (.ofList b) istart (istart + item.length) ctx =
      Item.parseDouble env item ctx := by
  unfold parseDouble Item.parseDouble
  rw [Nat.add_sub_cancel_left, Program.ite_run, Program.ite_run]
  by_cases long : 31 < item.length
  · rw [if_pos long, if_pos long]
  · have fits : ([] : List UInt8).length + item.length ≤ 31 := by
      rw [List.length_nil]
      omega
    rw [if_neg long, if_neg long, Program.bind_ok (copyTemp_walk left fits), List.nil_append]

/-- `ngx_strncasecmp` compares as many bytes of the text as the word has. -/
theorem sameWord_walk {word : List UInt8} {p : Nat} (left : b.drop p = item ++ rest)
    (size : item.length = word.length) : sameWord (.ofList b) p word ctx =
      (.ok (decide (item.map toLower = word.map toLower)), ctx) := by
  induction word generalizing item p with
  | nil =>
    rw [List.length_eq_zero_iff.mp size]
    rfl
  | cons w word ih =>
    obtain ⟨c, item, rfl⟩ := List.exists_cons_of_length_eq_add_one size
    have behind : b.drop (p + 1) = item ++ rest := (drop_head left).2.2
    rw [sameWord, Program.bind_ok (byte_head left ctx)]
    by_cases same : toLower c = toLower w
    · rw [if_pos same, ih behind (Nat.succ.inj size)]
      simp only [List.map_cons, List.cons.injEq, same, true_and]
    · rw [if_neg same]
      simp only [List.map_cons, List.cons.injEq, same, false_and, decide_false]
      rfl

/-- The word an item is, if it is one. -/
def wordOf (item : List UInt8) : Option JsonValue :=
  if item.length = 4 ∧ strncasecmp item "null" then some .null
  else if item.length = 4 ∧ strncasecmp item "true" then some (.boolean 1)
  else if item.length = 5 ∧ strncasecmp item "false" then some (.boolean 0)
  else none

/-- A comparison with a word of the length of the item. -/
theorem sameWord_literal (left : b.drop istart = item ++ rest) {word : String}
    (size : item.length = (ascii word).length) (ctx : JsonCtx) :
    sameWord (.ofList b) istart (ascii word) ctx = (.ok (strncasecmp item word), ctx) := by
  rw [sameWord_walk left size]
  unfold strncasecmp
  by_cases same : item.map toLower = (ascii word).map toLower
  · rw [decide_eq_true same, beq_iff_eq.mpr same]
  · rw [decide_eq_false same, beq_eq_false_iff_ne.mpr same]

/-- The words are looked for in the item only. -/
theorem parseWord_walk (left : b.drop istart = item ++ rest) :
    parseWord (.ofList b) istart (istart + item.length) ctx = (.ok (wordOf item), ctx) := by
  unfold parseWord wordOf
  rw [Nat.add_sub_cancel_left]
  by_cases four : item.length = 4
  · have null := sameWord_literal left (show item.length = (ascii "null").length from four) ctx
    have yes := sameWord_literal left (show item.length = (ascii "true").length from four) ctx
    simp only [four, if_true, true_and]
    rw [Program.bind_ok null]
    cases strncasecmp item "null" with
    | true => rfl
    | false =>
      rw [if_neg Bool.false_ne_true, if_neg Bool.false_ne_true, Program.bind_ok yes]
      cases strncasecmp item "true" with
      | true => rfl
      | false => rfl
  · simp only [four, false_and, if_false]
    by_cases five : item.length = 5
    · have no := sameWord_literal left
        (show item.length = (ascii "false").length from five) ctx
      simp only [five, if_true, true_and]
      rw [Program.bind_ok no]
      cases strncasecmp item "false" with
      | true => rfl
      | false => rfl
    · simp only [five, false_and, if_false]
      rfl

/-- The mark of a hexadecimal number is looked for in the item only. -/
theorem hexMark_walk (left : b.drop istart = item ++ rest) (c : UInt8) :
    hexMark (.ofList b) istart (istart + item.length) c ctx =
      (.ok (decide (c = 48 ∧ 2 < item.length ∧ (item[1]? = some 120 ∨ item[1]? = some 88))),
        ctx) := by
  unfold hexMark
  rw [Nat.add_sub_cancel_left]
  by_cases long : c = 48 ∧ 2 < item.length
  · obtain ⟨zero, longer⟩ := long
    match item with
    | [] => exact absurd longer (Nat.not_lt_zero 2)
    | [_] => exact absurd longer (by simp)
    | first :: x :: digits =>
      have behind : b.drop (istart + 1) = x :: (digits ++ rest) := (drop_head left).2.2
      rw [if_pos ⟨zero, longer⟩, Program.bind_ok (byte_head behind ctx)]
      simp only [zero, longer, true_and, List.getElem?_cons_succ, List.getElem?_cons_zero,
        Option.some.injEq, Bool.decide_or]
      rfl
  · rw [if_neg long, decide_eq_false fun marked => long ⟨marked.1, marked.2.1⟩]
    rfl

/-- A double is marked inside the item, or the scan for a mark reaches its end. -/
theorem scan_marks (left : b.drop istart = item ++ rest) :
    ∃ n, scan (fun c => !isDoubleMark c) b item.length istart = .ok n ∧
      (n < istart + item.length ↔ (item.any fun c => c = 46 || c = 101 || c = 69) = true) := by
  have marked : (fun c : UInt8 => decide (c = 46) || decide (c = 101) || decide (c = 69)) =
      isDoubleMark := rfl
  rw [marked, List.any_eq_true]
  rcases gap_split (fun c => !isDoubleMark c) item with all | ⟨gap, c, after, rfl, all, stops⟩
  · refine ⟨istart + item.length, ?_, ?_⟩
    · exact scan_prefix left all (Nat.le_refl _) fun less => absurd less (Nat.lt_irrefl _)
    · refine ⟨fun less => absurd less (Nat.lt_irrefl _), ?_⟩
      rintro ⟨c, inside, mark⟩
      have plain := all c inside
      rw [mark] at plain
      cases plain
  · rw [List.append_assoc] at left
    refine ⟨istart + gap.length, ?_, ?_⟩
    · apply scan_prefix left all
      · rw [List.length_append]
        exact Nat.le_add_right _ _
      · exact fun _ => ⟨c, rfl, stops⟩
    · rw [List.length_append, List.length_cons]
      refine ⟨fun _ => ⟨c, List.mem_append_right gap List.mem_cons_self, ?_⟩, fun _ => by omega⟩
      simpa using stops

/-- The tail of `ngx_nats_json_parse_value` reads the item only, and the byte behind an empty
one. -/
theorem parseItem_walk {c : UInt8} (left : b.drop istart = item ++ rest)
    (first : (item ++ rest).head? = some c) :
    parseItem env (.ofList b) istart (istart + item.length) ctx = primitive env item c ctx := by
  obtain ⟨after, split⟩ : ∃ after, item ++ rest = c :: after :=
    ⟨_, (List.cons_head?_tail (Option.mem_def.mpr first)).symm⟩
  unfold parseItem
  rw [Program.bind_ok (parseWord_walk left)]
  unfold wordOf primitive
  by_cases null : item.length = 4 ∧ strncasecmp item "null" = true
  · rw [if_pos null, if_pos null]
  rw [if_neg null, if_neg null]
  by_cases yes : item.length = 4 ∧ strncasecmp item "true" = true
  · rw [if_pos yes, if_pos yes]
  rw [if_neg yes, if_neg yes]
  by_cases no : item.length = 5 ∧ strncasecmp item "false" = true
  · rw [if_pos no, if_pos no]
  rw [if_neg no, if_neg no]
  show parseNumber env (.ofList b) istart (istart + item.length) ctx = _
  unfold parseNumber
  rw [Program.bind_ok (byte_head (left.trans split) ctx), Nat.add_sub_cancel_left]
  by_cases start : (c < 48 ∨ 57 < c) ∧ c ≠ 46 ∧ c ≠ 43 ∧ c ≠ 45
  · rw [if_pos start, if_pos start]
  rw [if_neg start, if_neg start]
  by_cases zero : c = 48 ∧ item.length = 1
  · rw [if_pos zero, if_pos zero]
  rw [if_neg zero, if_neg zero, Program.bind_ok (hexMark_walk left c)]
  by_cases marked : c = 48 ∧ 2 < item.length ∧ (item[1]? = some 120 ∨ item[1]? = some 88)
  · rw [decide_eq_true marked, if_pos rfl, if_pos marked,
      parseHex_walk left (Nat.le_of_lt marked.2.1)]
  rw [decide_eq_false marked, if_neg Bool.false_ne_true, if_neg marked]
  obtain ⟨n, found, inside⟩ := scan_marks left
  simp only [ofList_data, found]
  by_cases double : n < istart + item.length
  · rw [if_pos double, if_pos (inside.mp double), parseDouble_walk left]
  rw [if_neg double, if_neg fun mark => double (inside.mpr mark)]
  by_cases leading : c = 48
  · rw [if_pos leading, if_pos leading]
  rw [if_neg leading, if_neg leading, parseInt_walk left first]

end NgxNats.Json
