import NgxNats.Lib.Outcome
import NgxNats.Verif.JsonGrammar
import NgxNats.Verif.Frames

/-!
# Gaps and strings

What the parser reads between tokens and between quotes. `At` ties a parser context to the bytes
that are left to read. The scratch string doubles from 1024 bytes to one megabyte and always keeps
room for one more byte, so a string is refused exactly when it decodes to more than 1048574 bytes.
-/
namespace NgxNats.Json

open Dialect

/-- The only faults of a parser are its negative error codes. -/
def Refusal : JsonStop → Prop
  | .code rc => rc < 0
  | .fault _ => False

/-- The capacity of the scratch string is one of the doublings of 1024 up to a megabyte. -/
def Roomy (ctx : JsonCtx) : Prop := ∃ doublings ≤ 10, ctx.strCap = 1024 * 2 ^ doublings

/-- The context has `input` left to read of the text `b`. -/
structure At (b input : List UInt8) (ctx : JsonCtx) : Prop where
  left : b.drop ctx.pos = input
  inside : ctx.pos ≤ b.length
  roomy : Roomy ctx

variable {env : JsonEnv} {b : List UInt8}

/-- The first byte of what is left can be read, and the rest is left behind it. -/
theorem drop_head {n : Nat} {c : UInt8} {rest : List UInt8} (left : b.drop n = c :: rest) :
    n < b.length ∧ load b n = .ok c ∧ b.drop (n + 1) = rest := by
  have inside : n < b.length := by
    have length := congrArg List.length left
    simp only [List.length_drop, List.length_cons] at length
    omega
  rw [List.drop_eq_getElem_cons inside, List.cons.injEq] at left
  refine ⟨inside, ?_, left.2⟩
  rw [load_inside inside, left.1]

/-- Reading the first byte of what is left. -/
theorem byte_head {n : Nat} {c : UInt8} {rest : List UInt8} (left : b.drop n = c :: rest)
    (ctx : JsonCtx) : byte (.ofList b) n ctx = (.ok c, ctx) := by
  unfold byte
  rw [ofList_data, (drop_head left).2.1]

namespace At

variable {input rest : List UInt8} {ctx : JsonCtx}

/-- The position is determined by the bytes that are left. -/
theorem pos_eq (here : At b input ctx) : ctx.pos + input.length = b.length := by
  have length := congrArg List.length here.left
  rw [List.length_drop] at length
  have inside := here.inside
  omega

/-- Moving over bytes leaves the ones behind them. -/
theorem skip {gap : List UInt8} (here : At b (gap ++ rest) ctx) :
    At b rest { ctx with pos := ctx.pos + gap.length } where
  left := by
    rw [← List.drop_drop, here.left, List.drop_left]
  inside := by
    have pos := here.pos_eq
    rw [List.length_append] at pos
    show ctx.pos + gap.length ≤ b.length
    omega
  roomy := here.roomy

/-- Moving over one byte. -/
theorem next {c : UInt8} (here : At b (c :: rest) ctx) :
    At b rest { ctx with pos := ctx.pos + 1 } := @skip b rest ctx [c] here

/-- Something is left exactly when the position is inside the text. -/
theorem pos_lt {c : UInt8} (here : At b (c :: rest) ctx) : ctx.pos < b.length :=
  (drop_head here.left).1

/-- `nextByte` takes the first byte of what is left. -/
theorem nextByte_run {c : UInt8} (here : At b (c :: rest) ctx) :
    nextByte (.ofList b) ctx = (.ok c, { ctx with pos := ctx.pos + 1 }) := by
  unfold nextByte
  rw [Program.get_bind, Program.bind_ok (byte_head here.left ctx), Program.modify_bind]
  rfl

end At

/-- An allocation that is granted only counts. -/
theorem allocate_granted {ctx : JsonCtx} (granted : env.pool ctx.allocs = true) :
    allocate env ctx = (.ok (), { ctx with allocs := ctx.allocs + 1 }) := by
  unfold allocate
  rw [Program.get_bind, Program.modify_bind, if_pos granted]
  rfl

/-- An allocation that is not granted is an error. -/
theorem allocate_refused {ctx : JsonCtx} (refused : env.pool ctx.allocs = false) :
    allocate env ctx = (.error (.code jsonErrError), { ctx with allocs := ctx.allocs + 1 }) := by
  unfold allocate
  rw [Program.get_bind, Program.modify_bind, refused]
  rfl

/-- An allocation from a pool that does not run out only counts. -/
theorem allocate_run (allocates : ∀ n, env.pool n = true) (ctx : JsonCtx) :
    allocate env ctx = (.ok (), { ctx with allocs := ctx.allocs + 1 }) :=
  allocate_granted (allocates ctx.allocs)

/-- Whatever the pool answers, an allocation counts or is an error. -/
theorem allocate_ends (env : JsonEnv) (ctx : JsonCtx) :
    (allocate env).Ends ctx (fun _ last => last = { ctx with allocs := ctx.allocs + 1 })
      Refusal := by
  cases answer : env.pool ctx.allocs with
  | true => exact .of_ok (allocate_granted answer) rfl
  | false => exact .of_error (allocate_refused answer) (show jsonErrError < 0 by decide)

/-- Every input is a gap, or a gap and a byte that is none of it. -/
theorem gap_split (keep : UInt8 → Bool) (input : List UInt8) :
    (∀ c ∈ input, keep c = true) ∨ ∃ gap c rest, input = gap ++ c :: rest ∧
      (∀ c ∈ gap, keep c = true) ∧ keep c = false := by
  induction input with
  | nil =>
    left
    intro c inside
    cases inside
  | cons first rest ih =>
    by_cases kept : keep first = true
    · rcases ih with all | ⟨gap, c, after, rfl, all, stops⟩
      · left
        intro c inside
        rcases List.mem_cons.mp inside with rfl | later
        · exact kept
        · exact all c later
      · right
        refine ⟨first :: gap, c, after, rfl, ?_, stops⟩
        intro other inside
        rcases List.mem_cons.mp inside with rfl | later
        · exact kept
        · exact all other later
    · right
      have dropped : keep first = false := by simpa using kept
      exact ⟨[], first, rest, rfl, fun _ none => absurd none List.not_mem_nil, dropped⟩

/-- A scan passes exactly the bytes it keeps. -/
theorem scan_gap {keep : UInt8 → Bool} {gap rest : List UInt8} {n : Nat}
    (left : b.drop n = gap ++ rest) (kept : ∀ c ∈ gap, keep c = true)
    (stops : ∀ c ∈ rest.head?, keep c = false) :
    scan keep b (b.length - n) n = .ok (n + gap.length) := by
  have length := congrArg List.length left
  rw [List.length_drop, List.length_append] at length
  apply scan_prefix left kept (by omega)
  intro before
  have more : rest ≠ [] := by
    intro none
    rw [none, List.length_nil] at length
    omega
  obtain ⟨c, after, rfl⟩ := List.exists_cons_of_ne_nil more
  exact ⟨c, rfl, stops c rfl⟩

/-- `_skipSpaces` skips the whitespace. -/
theorem isSpace_iff {c : UInt8} : isSpace c = true ↔ c ∈ spaces := by
  unfold isSpace spaces
  simp only [Bool.or_eq_true, decide_eq_true_eq, List.mem_cons, List.not_mem_nil, or_false,
    or_assoc]

/-- A byte that is no whitespace stops `_skipSpaces`. -/
theorem isSpace_false {c : UInt8} (other : c ∉ spaces) : isSpace c = false := by
  rw [Bool.eq_false_iff]
  intro space
  exact other (isSpace_iff.mp space)

/-- `_skipSpaces` moves over a gap. -/
theorem skipSpaces_run {gap rest : List UInt8} {c : UInt8} {ctx : JsonCtx}
    (here : At b (gap ++ c :: rest) ctx) (blank : Spaces gap) (other : c ∉ spaces) :
    skipSpaces (.ofList b) ctx = (.ok (), { ctx with pos := ctx.pos + gap.length }) := by
  have found : scan isSpace b (b.length - ctx.pos) ctx.pos = .ok (ctx.pos + gap.length) := by
    apply scan_gap here.left
    · intro c inside
      exact isSpace_iff.mpr (blank c inside)
    · intro first is
      cases is
      exact isSpace_false other
  have before := here.skip.pos_lt
  unfold skipSpaces
  simp only [ofList_data, ofList_len, found]
  exact if_pos before

/-- `_skipSpaces` reports the end of the text when only whitespace is left. -/
theorem skipSpaces_eof {input : List UInt8} {ctx : JsonCtx} (here : At b input ctx)
    (blank : Spaces input) : skipSpaces (.ofList b) ctx = (.error (.code jsonErrEof), ctx) := by
  have found : scan isSpace b (b.length - ctx.pos) ctx.pos = .ok (ctx.pos + input.length) := by
    have left : b.drop ctx.pos = input ++ [] := by
      rw [List.append_nil]
      exact here.left
    apply scan_gap left
    · intro c inside
      exact isSpace_iff.mpr (blank c inside)
    · intro c none
      cases none
  have pos := here.pos_eq
  unfold skipSpaces
  simp only [ofList_data, ofList_len, found]
  exact if_neg (by omega)

/-- `_skipSpaces` ends before a byte that is no whitespace, or at the end of the text. -/
theorem skipSpaces_ends {input : List UInt8} {ctx : JsonCtx} (here : At b input ctx) :
    (skipSpaces (.ofList b)).Ends ctx (fun _ last => ∃ gap c rest, input = gap ++ c :: rest ∧
      Spaces gap ∧ c ∉ spaces ∧ At b (c :: rest) last) Refusal := by
  rcases gap_split isSpace input with all | ⟨gap, c, rest, rfl, all, stops⟩
  · apply Program.Ends.of_error (skipSpaces_eof here fun c inside => isSpace_iff.mp (all c inside))
    show jsonErrEof < 0
    decide
  · have blank : Spaces gap := fun c inside => isSpace_iff.mp (all c inside)
    have other : c ∉ spaces := by
      intro space
      rw [isSpace_iff.mpr space] at stops
      cases stops
    exact .of_ok (skipSpaces_run here blank other) ⟨gap, c, rest, rfl, blank, other, here.skip⟩

/-- A known escape letter stands for its byte. -/
theorem unescape_run {letter c : UInt8} (known : (letter, c) ∈ escapes) (ctx : JsonCtx) :
    unescape letter ctx = (.ok c, ctx) := by
  unfold escapes at known
  simp only [List.mem_cons, Prod.mk.injEq, List.not_mem_nil, or_false] at known
  rcases known with ⟨rfl, rfl⟩ | ⟨rfl, rfl⟩ | ⟨rfl, rfl⟩ | ⟨rfl, rfl⟩ | ⟨rfl, rfl⟩ | ⟨rfl, rfl⟩ |
    ⟨rfl, rfl⟩ | ⟨rfl, rfl⟩ | ⟨rfl, rfl⟩
  all_goals rfl

/-- Only the known escape letters are accepted. -/
theorem unescape_ends (letter : UInt8) (ctx : JsonCtx) :
    (unescape letter).Ends ctx (fun c last => last = ctx ∧ (letter, c) ∈ escapes) Refusal := by
  by_cases known : ∃ c, (letter, c) ∈ escapes
  · obtain ⟨c, known⟩ := known
    exact .of_ok (unescape_run known ctx) ⟨rfl, known⟩
  · have other : letter ≠ 98 ∧ letter ≠ 116 ∧ letter ≠ 110 ∧ letter ≠ 102 ∧ letter ≠ 114 ∧
        ¬(letter = 34 ∨ letter = 39 ∨ letter = 92 ∨ letter = 47) := by
      refine ⟨?_, ?_, ?_, ?_, ?_, ?_⟩
      · rintro rfl; exact known ⟨8, by decide⟩
      · rintro rfl; exact known ⟨9, by decide⟩
      · rintro rfl; exact known ⟨10, by decide⟩
      · rintro rfl; exact known ⟨12, by decide⟩
      · rintro rfl; exact known ⟨13, by decide⟩
      · rintro (rfl | rfl | rfl | rfl)
        · exact known ⟨34, by decide⟩
        · exact known ⟨39, by decide⟩
        · exact known ⟨92, by decide⟩
        · exact known ⟨47, by decide⟩
    obtain ⟨b, t, n, f, r, self⟩ := other
    unfold unescape
    rw [if_neg b, if_neg t, if_neg n, if_neg f, if_neg r, if_neg self]
    split
    · exact .of_error rfl (show jsonErrNotSupported < 0 by decide)
    · exact .of_error rfl (show jsonErrSyntax < 0 by decide)

/-- Where the string loop stands: the mark is two bytes below the capacity, and there is room for
the next byte. -/
structure Scanning (ctx : JsonCtx) (mspos : Nat) (out : List UInt8) : Prop where
  roomy : Roomy ctx
  mark : mspos = ctx.strCap - 2
  room : out.length < ctx.strCap

/-- The capacity is between a kilobyte and a megabyte. -/
theorem Roomy.bounds {ctx : JsonCtx} (roomy : Roomy ctx) :
    1024 ≤ ctx.strCap ∧ ctx.strCap ≤ 1048576 := by
  obtain ⟨doublings, few, cap⟩ := roomy
  have low : 2 ^ 0 ≤ 2 ^ doublings := Nat.pow_le_pow_right (by decide) (Nat.zero_le _)
  have high : 2 ^ doublings ≤ 2 ^ 10 := Nat.pow_le_pow_right (by decide) few
  omega

/-- A capacity below a megabyte can be doubled. -/
theorem Roomy.double {ctx : JsonCtx} (roomy : Roomy ctx) (small : ctx.strCap < 1048576)
    {grown : JsonCtx} (twice : grown.strCap = ctx.strCap * 2) : Roomy grown := by
  obtain ⟨doublings, few, cap⟩ := roomy
  refine ⟨doublings + 1, ?_, ?_⟩
  · by_contra many
    have full : doublings = 10 := by omega
    rw [cap, full] at small
    exact absurd small (by decide)
  · rw [twice, cap, Nat.pow_succ, Nat.mul_assoc]

/-- There is room for the byte that was stored. -/
theorem Scanning.room_before {ctx : JsonCtx} {mspos : Nat} {out : List UInt8} {c : UInt8}
    (scanning : Scanning ctx mspos (out ++ [c])) : out.length < ctx.strCap := by
  have room := scanning.room
  rw [List.length_append] at room
  omega

/-- A start of a string has room. -/
theorem Roomy.scanning {ctx : JsonCtx} (roomy : Roomy ctx) : Scanning ctx (ctx.strCap - 2) [] where
  roomy := roomy
  mark := rfl
  room := by
    have bounds := roomy.bounds
    rw [List.length_nil]
    omega

/-- A round of `ngx_nats_json_parse_string` behind its check for room. -/
def stringRound (env : JsonEnv) (text : Str) (q : UInt8) (rounds n mspos : Nat)
    (out : List UInt8) : Json (Nat × List UInt8 × Bool) := do
  let c ← byte text n
  if c = 92 then
    if text.len ≤ n + 1 then stop jsonErrEof
    else
      let c ← byte text (n + 1)
      let out ← putChar out (← unescape c)
      stringLoop env text q rounds (n + 2) mspos out
  else if c = q then return (n + 1, out, true)
  else
    let out ← putChar out c
    stringLoop env text q rounds (n + 1) mspos out

/-- A byte is stored when there is room for it. -/
theorem putChar_run {out : List UInt8} {ctx : JsonCtx} (room : out.length < ctx.strCap)
    (c : UInt8) : putChar out c ctx = (.ok (out ++ [c]), ctx) := by
  unfold putChar
  rw [Program.get_bind, if_pos room]
  rfl

variable {q : UInt8} {rounds n mspos : Nat} {out : List UInt8} {ctx : JsonCtx}

/-- A round makes room for a byte more than it will store, unless the string is at its limit or the
pool refuses to let it grow. -/
theorem stringLoop_cases (q : UInt8) (rounds : Nat) (inside : n < b.length)
    (scanning : Scanning ctx mspos out) (short : out.length ≤ 1048574) :
    (∃ mark middle, (∀ c, Scanning middle mark (out ++ [c])) ∧
      stringLoop env (.ofList b) q (rounds + 1) n mspos out ctx =
        stringRound env (.ofList b) q rounds n mark out middle) ∨
      env.pool ctx.allocs = false ∧ ∃ last,
        stringLoop env (.ofList b) q (rounds + 1) n mspos out ctx =
          (.error (.code jsonErrError), last) := by
  have bounds := scanning.roomy.bounds
  have mark := scanning.mark
  rw [stringLoop, if_pos (show n < (Str.ofList b).len from inside), Program.modify_bind]
  by_cases before : out.length < mspos
  · left
    refine ⟨mspos, { ctx with strPos := out.length }, fun c => ⟨scanning.roomy, mark, ?_⟩, ?_⟩
    · rw [List.length_append, List.length_singleton]
      show out.length + 1 < ctx.strCap
      omega
    · simp only [if_neg (show ¬mspos ≤ out.length by omega)]
      rfl
  · simp only [if_pos (show mspos ≤ out.length by omega)]
    by_cases fits : out.length + 2 ≤ ctx.strCap
    · left
      refine ⟨ctx.strCap - 2, { ctx with strPos := out.length },
        fun c => ⟨scanning.roomy, rfl, ?_⟩, ?_⟩
      · rw [List.length_append, List.length_singleton]
        show out.length + 1 < ctx.strCap
        omega
      · have enough : ensureStr env 2 { ctx with strPos := out.length } =
            (.ok (), { ctx with strPos := out.length }) := by
          unfold ensureStr
          rw [Program.get_bind, if_neg (show ¬ctx.strCap - out.length < 2 by omega)]
          rfl
        rw [Program.bind_ok enough]
        rfl
    · -- the last byte of the scratch string is next, so it is doubled
      have room := scanning.room
      cases answer : env.pool ctx.allocs with
      | true =>
        left
        have granted : allocate env { ctx with strPos := out.length } =
            (.ok (), { ctx with strPos := out.length, allocs := ctx.allocs + 1 }) :=
          allocate_granted answer
        have grown : ensureStr env 2 { ctx with strPos := out.length } =
            (.ok (), { ctx with
              strPos := out.length, allocs := ctx.allocs + 1, strCap := ctx.strCap * 2 }) := by
          unfold ensureStr
          rw [Program.get_bind, if_pos (show ctx.strCap - out.length < 2 by omega),
            if_neg (show ¬1024 * 1024 ≤ ctx.strCap by omega),
            Program.bind_ok granted]
          rfl
        refine ⟨ctx.strCap * 2 - 2, { ctx with
          strPos := out.length, allocs := ctx.allocs + 1, strCap := ctx.strCap * 2 },
          fun c => ⟨scanning.roomy.double (by omega) rfl, rfl, ?_⟩, ?_⟩
        · rw [List.length_append, List.length_singleton]
          show out.length + 1 < ctx.strCap * 2
          omega
        · rw [Program.bind_ok grown]
          rfl
      | false =>
        right
        have denied : allocate env { ctx with strPos := out.length } =
            (.error (.code jsonErrError), { ctx with
              strPos := out.length, allocs := ctx.allocs + 1 }) := allocate_refused answer
        have refused : ensureStr env 2 { ctx with strPos := out.length } =
            (.error (.code jsonErrError), { ctx with
              strPos := out.length, allocs := ctx.allocs + 1 }) := by
          unfold ensureStr
          rw [Program.get_bind, if_pos (show ctx.strCap - out.length < 2 by omega),
            if_neg (show ¬1024 * 1024 ≤ ctx.strCap by omega),
            Program.bind_error denied]
        exact ⟨rfl, _, Program.bind_error refused⟩

/-- With a pool that does not run out, a round makes room for a byte more than it will store, unless
the string is at its limit. -/
theorem stringLoop_round (q : UInt8) (rounds : Nat) (allocates : ∀ n, env.pool n = true)
    (inside : n < b.length) (scanning : Scanning ctx mspos out) (short : out.length ≤ 1048574) :
    ∃ mark middle, (∀ c, Scanning middle mark (out ++ [c])) ∧
      stringLoop env (.ofList b) q (rounds + 1) n mspos out ctx =
        stringRound env (.ofList b) q rounds n mark out middle := by
  rcases stringLoop_cases q rounds inside scanning short with round | ⟨refused, -⟩
  · exact round
  · rw [allocates] at refused
    cases refused

/-- A string at its limit is refused. -/
theorem stringLoop_full (inside : n < b.length) (scanning : Scanning ctx mspos out)
    (long : 1048574 < out.length) :
    stringLoop env (.ofList b) q (rounds + 1) n mspos out ctx =
      (.error (.code jsonErrError), { ctx with strPos := out.length }) := by
  have bounds := scanning.roomy.bounds
  have room := scanning.room
  have mark := scanning.mark
  have refused : ensureStr env 2 { ctx with strPos := out.length } =
      (.error (.code jsonErrError), { ctx with strPos := out.length }) := by
    unfold ensureStr
    rw [Program.get_bind, if_pos (show ctx.strCap - out.length < 2 by omega),
      if_pos (show 1024 * 1024 ≤ ctx.strCap by omega)]
    rfl
  rw [stringLoop, if_pos (show n < (Str.ofList b).len from inside), Program.modify_bind]
  simp only [if_pos (show mspos ≤ out.length by omega)]
  rw [Program.bind_error refused]

/-- The string loop decodes what it read, or did not find the closing quote. -/
theorem stringLoop_ends (inside : n ≤ b.length)
    (enough : b.length < n + rounds) (scanning : Scanning ctx mspos out) :
    (stringLoop env (.ofList b) q rounds n mspos out).Ends ctx (fun found last => Roomy last ∧
      found.1 ≤ b.length ∧
      (found.2.2 = true → ∃ body bytes, b.drop n = body ++ q :: b.drop found.1 ∧
        Content q body bytes ∧ found.2.1 = out ++ bytes ∧ found.2.1.length ≤ 1048574)) Refusal := by
  induction rounds generalizing n mspos out ctx with
  | zero => omega
  | succ rounds ih =>
    by_cases more : n < b.length
    swap
    · rw [stringLoop, if_neg (show ¬n < (Str.ofList b).len from more)]
      exact .of_ok rfl ⟨scanning.roomy, inside, fun found => absurd found Bool.false_ne_true⟩
    by_cases short : out.length ≤ 1048574
    swap
    · exact .of_error (stringLoop_full more scanning (Nat.lt_of_not_le short))
        (show jsonErrError < 0 by decide)
    rcases stringLoop_cases q rounds more scanning short with
      ⟨mark, middle, stored, run⟩ | ⟨-, last, refused⟩
    swap
    · exact .of_error refused (show jsonErrError < 0 by decide)
    apply Program.Ends.of_run run
    obtain ⟨c, rest, left⟩ := List.exists_cons_of_ne_nil
      (List.ne_nil_of_length_pos (l := b.drop n) (by rw [List.length_drop]; omega))
    have behind : b.drop (n + 1) = rest := (drop_head left).2.2
    unfold stringRound
    apply Program.Ends.step (byte_head left middle)
    by_cases escaped : c = 92
    · rw [if_pos escaped]
      by_cases last : b.length ≤ n + 1
      · rw [if_pos (show (Str.ofList b).len ≤ n + 1 from last)]
        exact .of_error rfl (show jsonErrEof < 0 by decide)
      rw [if_neg (show ¬(Str.ofList b).len ≤ n + 1 from last)]
      obtain ⟨letter, after, next⟩ := List.exists_cons_of_ne_nil
        (List.ne_nil_of_length_pos (l := b.drop (n + 1)) (by rw [List.length_drop]; omega))
      apply Program.Ends.step (byte_head next middle)
      apply Program.Ends.bind (unescape_ends letter middle)
      rintro decoded _ ⟨rfl, known⟩
      apply Program.Ends.step (putChar_run (stored decoded).room_before decoded)
      apply Program.Ends.weaken (ih (by omega) (by omega) (stored decoded))
      rintro ⟨stop, all, quoteFound⟩ final ⟨roomy, within, found⟩
      refine ⟨roomy, within, fun quoted => ?_⟩
      obtain ⟨body, bytes, split, content, decodes, limit⟩ := found quoted
      refine ⟨92 :: letter :: body, decoded :: bytes, ?_, .escape known content, ?_, limit⟩
      · rw [left, escaped, ← behind, next, ← (drop_head next).2.2, split]
        rfl
      · rw [decodes, List.append_assoc]
        rfl
    · rw [if_neg escaped]
      by_cases closing : c = q
      · rw [if_pos closing]
        refine .of_ok rfl ⟨(stored c).roomy, more, fun _ => ⟨[], [], ?_, .nil, ?_, short⟩⟩
        · rw [left, closing, behind]
          rfl
        · exact (List.append_nil out).symm
      · rw [if_neg closing]
        apply Program.Ends.step (putChar_run (stored c).room_before c)
        apply Program.Ends.weaken (ih more (by omega) (stored c))
        rintro ⟨stop, all, quoteFound⟩ final ⟨roomy, within, found⟩
        refine ⟨roomy, within, fun quoted => ?_⟩
        obtain ⟨body, bytes, split, content, decodes, limit⟩ := found quoted
        refine ⟨c :: body, c :: bytes, ?_, .plain closing escaped content, ?_, limit⟩
        · rw [left, ← behind, split]
          rfl
        · rw [decodes, List.append_assoc]
          rfl

/-- The string loop reads what the grammar derives. -/
theorem stringLoop_run (allocates : ∀ n, env.pool n = true) (quote : q ≠ 92)
    {body bytes rest : List UInt8} (content : Content q body bytes)
    (left : b.drop n = body ++ q :: rest) (limit : out.length + bytes.length ≤ 1048574)
    (enough : body.length < rounds) (scanning : Scanning ctx mspos out) :
    ∃ last, stringLoop env (.ofList b) q rounds n mspos out ctx =
      (.ok (n + body.length + 1, out ++ bytes, true), last) ∧ Roomy last := by
  induction content generalizing n out rounds mspos ctx with
  | nil =>
    obtain ⟨rounds, rfl⟩ : ∃ fewer, rounds = fewer + 1 := ⟨rounds - 1, by simp at enough; omega⟩
    obtain ⟨mark, middle, stored, run⟩ := stringLoop_round q rounds allocates
      (drop_head left).1 scanning (Nat.le_trans (Nat.le_add_right _ _) limit)
    refine ⟨middle, ?_, (stored 0).roomy⟩
    rw [run, stringRound, Program.bind_ok (byte_head left middle), if_neg quote, if_pos rfl,
      List.append_nil]
    rfl
  | @plain c text bytes other unescaped content ih =>
    obtain ⟨rounds, rfl⟩ : ∃ fewer, rounds = fewer + 1 := ⟨rounds - 1, by simp at enough; omega⟩
    obtain ⟨mark, middle, stored, run⟩ := stringLoop_round q rounds allocates
      (drop_head left).1 scanning (Nat.le_trans (Nat.le_add_right _ _) limit)
    simp only [List.length_cons] at limit enough ⊢
    have longer : (out ++ [c]).length + bytes.length ≤ 1048574 := by
      rw [List.length_append, List.length_singleton]
      omega
    obtain ⟨last, rest_run, roomy⟩ := ih (drop_head left).2.2 longer (Nat.lt_of_succ_lt_succ enough)
      (stored c)
    refine ⟨last, ?_, roomy⟩
    rw [run, stringRound, Program.bind_ok (byte_head left middle), if_neg unescaped, if_neg other,
      Program.bind_ok (putChar_run (stored c).room_before c), rest_run, List.append_assoc,
      Nat.add_assoc n 1, Nat.add_comm 1]
    rfl
  | @escape letter c text bytes known content ih =>
    obtain ⟨rounds, rfl⟩ : ∃ fewer, rounds = fewer + 1 := ⟨rounds - 1, by simp at enough; omega⟩
    obtain ⟨mark, middle, stored, run⟩ := stringLoop_round q rounds allocates
      (drop_head left).1 scanning (Nat.le_trans (Nat.le_add_right _ _) limit)
    simp only [List.length_cons] at limit enough ⊢
    have longer : (out ++ [c]).length + bytes.length ≤ 1048574 := by
      rw [List.length_append, List.length_singleton]
      omega
    have next : b.drop (n + 1) = letter :: (text ++ q :: rest) := (drop_head left).2.2
    have fewer : text.length < rounds := by omega
    obtain ⟨last, rest_run, roomy⟩ := ih (drop_head next).2.2 longer fewer (stored c)
    have within : ¬b.length ≤ n + 1 := Nat.not_le_of_lt (drop_head next).1
    refine ⟨last, ?_, roomy⟩
    rw [run, stringRound, Program.bind_ok (byte_head left middle), if_pos rfl,
      if_neg (show ¬(Str.ofList b).len ≤ n + 1 from within),
      Program.bind_ok (byte_head next middle), Program.bind_ok (unescape_run known middle),
      Program.bind_ok (putChar_run (stored c).room_before c), rest_run, List.append_assoc,
      show n + (text.length + 1 + 1) + 1 = n + 2 + text.length + 1 by omega]
    rfl

/-- `ngx_nats_json_parse_string` reads what stands before the closing quote. -/
theorem parseString_run (allocates : ∀ n, env.pool n = true) (quote : q ≠ 92)
    {body bytes rest : List UInt8} (content : Content q body bytes)
    (limit : bytes.length ≤ 1048574) (here : At b (body ++ q :: rest) ctx) :
    ∃ last, parseString env (.ofList b) q ctx = (.ok bytes, last) ∧ At b rest last := by
  have pos := here.pos_eq
  rw [List.length_append, List.length_cons] at pos
  have fits : ([] : List UInt8).length + bytes.length ≤ 1048574 := by
    rw [List.length_nil]
    omega
  have enough : body.length < b.length + 1 := by omega
  obtain ⟨middle, loop, roomy⟩ := stringLoop_run allocates quote content here.left fits enough
    here.roomy.scanning
  refine ⟨{ middle with pos := ctx.pos + body.length + 1, allocs := middle.allocs + 1 }, ?_, ?_⟩
  · unfold parseString
    rw [Program.get_bind, ofList_len, Program.bind_ok loop]
    simp only [Program.modify_bind, if_true]
    rw [Program.bind_ok (allocate_run allocates _)]
    rfl
  · have behind : At b (q :: rest) { ctx with pos := ctx.pos + body.length } := here.skip
    have moved := behind.next
    exact ⟨moved.left, moved.inside, roomy⟩

/-- `ngx_nats_json_parse_string` returns the bytes of a string of the grammar. -/
theorem parseString_ends (env : JsonEnv) (q : UInt8) {input : List UInt8}
    (here : At b input ctx) : (parseString env (.ofList b) q).Ends ctx (fun bytes last =>
      ∃ body rest, input = body ++ q :: rest ∧ Content q body bytes ∧ bytes.length ≤ 1048574 ∧
        At b rest last) Refusal := by
  unfold parseString
  apply Program.Ends.step (Program.get_run ctx)
  have enough : b.length < ctx.pos + (b.length + 1) := by omega
  apply Program.Ends.bind (stringLoop_ends here.inside enough here.roomy.scanning)
  rintro ⟨stop, out, quoteFound⟩ middle ⟨roomy, within, found⟩
  apply Program.Ends.step (Program.modify_run _ middle)
  cases quoteFound with
  | false => exact .of_error rfl (show jsonErrEof < 0 by decide)
  | true =>
    obtain ⟨body, bytes, split, content, decodes, limit⟩ := found rfl
    apply Program.Ends.bind (allocate_ends env _)
    rintro _ _ rfl
    rw [List.nil_append] at decodes
    subst decodes
    refine .of_ok rfl ⟨body, b.drop stop, ?_, content, limit, rfl, within, roomy⟩
    rw [← here.left, split]

end NgxNats.Json
