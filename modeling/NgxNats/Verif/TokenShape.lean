import NgxNats.Verif.Header

/-!
# What a token is

`_nats_token` said by bytes: spaces are skipped, and a token is either a run without a space or a
text in quotes, in which a backslash takes the byte behind it along. The loop over a quoted text may
step onto the CR that ends the line, but not behind it.
-/
namespace NgxNats

/-- A byte other than space and CR. -/
def PlainByte (c : UInt8) : Prop := c ≠ SP ∧ c ≠ CR

/-- What stands between two quotes: bytes other than the quote and the backslash, and backslashes
each with the byte behind it. -/
inductive QuotedBody (q : UInt8) : List UInt8 → Prop
  | nil : QuotedBody q []
  | plain {c : UInt8} {rest : List UInt8} (other : c ≠ q) (unescaped : c ≠ 92)
      (body : QuotedBody q rest) : QuotedBody q (c :: rest)
  | escape {c : UInt8} {rest : List UInt8} (body : QuotedBody q rest) :
      QuotedBody q (92 :: c :: rest)

/-- A text that starts and ends with the same quote, with no other unescaped one. -/
def QuotedText (text : List UInt8) : Prop :=
  ∃ q body, (q = 39 ∨ q = 34) ∧ QuotedBody q body ∧ text = q :: body ++ [q]

/-- A run of bytes other than space and CR that does not start with a quote. -/
def PlainText (text : List UInt8) : Prop :=
  (∀ c ∈ text, PlainByte c) ∧ ∃ c ∈ text.head?, c ≠ 39 ∧ c ≠ 34

/-- The text of a token. -/
def Token.text (token : Token) (s : List UInt8) : List UInt8 :=
  (s.drop token.ns).take (token.ne - token.ns)

/-- What a token found from `pos` on is, when `_nats_token` returns `n`: either only spaces were
left, or the token lies behind spaces and ends at `n`, a plain one at a space or at the end of the
line. -/
def Token.Found (token : Token) (s : List UInt8) (pos max n : Nat) : Prop :=
  pos ≤ n ∧ n ≤ max ∧
    ((∀ i, pos ≤ i → i < max → s[i]? = some SP) ∧ token.ns = max ∧ token.ne = max ∧ n = max ∨
      (∀ i, pos ≤ i → i < token.ns → s[i]? = some SP) ∧
        pos ≤ token.ns ∧ token.ns < token.ne ∧ token.ne = n ∧
          (PlainText (token.text s) ∧ (n = max ∨ s[n]? = some SP) ∨ QuotedText (token.text s)))

/-- Tokens that were found one behind the other, from `pos` on. -/
inductive Successive (s : List UInt8) (max : Nat) : Nat → List Token → Prop
  | nil {pos : Nat} : Successive s max pos []
  | cons {pos n : Nat} {token : Token} {rest : List Token}
      (run : natsToken s pos max = .ok token) (next : token.next = some n)
      (later : Successive s max n rest) : Successive s max pos (token :: rest)

variable {data : List UInt8} {max : Nat}

/-- The check of the loop over a plain token. -/
theorem plainByte_iff {c : UInt8} : (c ≠ SP && c ≠ CR) = true ↔ PlainByte c := by
  unfold PlainByte
  simp only [Bool.and_eq_true, decide_eq_true_eq]

/-- A readable byte is the first one from its position on. -/
theorem drop_of_load {index : Nat} {c : UInt8} (read : load data index = .ok c) :
    data.drop index = c :: data.drop (index + 1) := by
  obtain ⟨inside, same⟩ := List.getElem?_eq_some_iff.mp (load_ok.mp read)
  rw [List.drop_eq_getElem_cons inside, same]

/-- A quoted token ends behind the first quote that is not escaped. -/
theorem natsTokenQuoted_body (line : EndsLine data max) {q : UInt8} :
    ∀ {rounds pos stop : Nat}, natsTokenQuoted data max q rounds pos = .ok (some stop) →
      ∃ body, QuotedBody q body ∧ data.drop pos = body ++ q :: data.drop stop
  | 0, pos, stop, done => by cases done
  | rounds + 1, pos, stop, done => by
    simp only [natsTokenQuoted] at done
    obtain ⟨c, read, done⟩ := except_bind_ok.mp done
    have here := drop_of_load read
    split at done
    · next escape =>
      split at done
      · cases done
      · next inner =>
        obtain ⟨body, quoted, rest⟩ := natsTokenQuoted_body line done
        have inside := line.inside
        have second : pos + 1 < data.length := by omega
        have escaped := drop_of_load (load_inside second)
        refine ⟨92 :: data[pos + 1] :: body, .escape quoted, ?_⟩
        rw [here, escape, escaped, rest]
        rfl
    · next unescaped =>
      split at done
      · next closing =>
        cases done
        exact ⟨[], .nil, by rw [here, closing, List.nil_append]⟩
      · next other =>
        split at done
        · cases done
        · obtain ⟨body, quoted, rest⟩ := natsTokenQuoted_body line done
          exact ⟨c :: body, .plain other unescaped quoted, by rw [here, rest]; rfl⟩

/-- The text between two positions, when it is known what starts at the first one. -/
theorem take_between {first stop : Nat} {text : List UInt8} (inside : stop ≤ data.length)
    (split : data.drop first = text ++ data.drop stop) :
    (data.drop first).take (stop - first) = text := by
  have lengths := congrArg List.length split
  simp only [List.length_append, List.length_drop] at lengths
  have size : text.length = stop - first ∨ text.length = 0 ∧ stop ≤ first := by omega
  rw [split]
  rcases size with exact | ⟨empty, before⟩
  · rw [← exact, List.take_left]
  · rw [List.length_eq_zero_iff.mp empty, Nat.sub_eq_zero_of_le before, List.take_zero]

/-- A scan that stops before the end of the line passed what it was to pass. -/
theorem scan_passed {keep : UInt8 → Bool} {left n stop : Nat}
    (run : scan keep data left n = .ok stop)
    {i : Nat} (low : n ≤ i) (high : i < stop) : ∃ c, data[i]? = some c ∧ keep c = true := by
  obtain ⟨-, -, passed, -⟩ := scan_spec run
  exact passed i low high

/-- What `_nats_token` finds on a line without a CR before its end. -/
theorem natsToken_found (line : EndsLine data max) {pos : Nat} (start : pos ≤ max)
    (first : ∀ i, pos ≤ i → i < max → data[i]? ≠ some CR) {token : Token}
    (run : natsToken data pos max = .ok token) {n : Nat} (next : token.next = some n) :
    token.Found data pos max n := by
  have inside := line.inside
  unfold natsToken at run
  obtain ⟨begin_, skipped, run⟩ := except_bind_ok.mp run
  obtain ⟨lower, upper, -, ended⟩ := scan_spec skipped
  have blanks : ∀ i, pos ≤ i → i < begin_ → data[i]? = some SP := by
    intro i low high
    obtain ⟨c, read, space⟩ := scan_passed skipped low high
    rw [read, of_decide_eq_true space]
  split at run
  · next spaces =>
    cases run
    cases next
    subst spaces
    exact ⟨start, Nat.le_refl _, .inl ⟨blanks, rfl, rfl, rfl⟩⟩
  · next more =>
    have before : begin_ < max := by omega
    obtain ⟨c, read, run⟩ := except_bind_ok.mp run
    have here := drop_of_load read
    split at run
    · next quote =>
      split at run
      · cases run
        cases next
      · obtain ⟨found, loop, run⟩ := except_bind_ok.mp run
        cases found with
        | none =>
          cases run
          cases next
        | some stop =>
          cases run
          cases next
          have noCr : c ≠ CR := by
            rintro rfl
            exact first begin_ lower before (load_ok.mp read)
          obtain ⟨total, again, bounds⟩ := natsTokenQuoted_total line noCr (max + 1) (begin_ + 1)
            (by omega) (by omega)
          rw [loop, Except.ok.injEq] at again
          obtain ⟨after, limit⟩ := bounds n again.symm
          obtain ⟨body, quoted, rest⟩ := natsTokenQuoted_body line loop
          have text : (data.drop begin_).take (n - begin_) = c :: body ++ [c] := by
            apply take_between (by omega)
            rw [here, rest, List.append_assoc]
            rfl
          exact ⟨by omega, limit, .inr ⟨blanks, lower, by show begin_ < n; omega, rfl,
            .inr ⟨c, body, quote, quoted, text⟩⟩⟩
    · next plain =>
      obtain ⟨stop, scanned, run⟩ := except_bind_ok.mp run
      cases run
      cases next
      obtain ⟨after, limit, -, halted⟩ := scan_spec scanned
      have word : PlainByte c := by
        obtain ⟨found, same, notSpace⟩ := ended (by omega)
        rw [load_ok.mp read, Option.some.injEq] at same
        subst same
        refine ⟨of_decide_eq_false notSpace, ?_⟩
        rintro rfl
        exact first begin_ lower before (load_ok.mp read)
      have nonempty : begin_ < n := by
        by_contra empty
        obtain ⟨found, same, dropped⟩ := halted (by omega)
        rw [show n = begin_ by omega, load_ok.mp read, Option.some.injEq] at same
        subst same
        rw [plainByte_iff.mpr word] at dropped
        cases dropped
      have bytes : ∀ other ∈ (data.drop begin_).take (n - begin_), PlainByte other := by
        intro other among
        obtain ⟨j, bound, rfl⟩ := List.getElem_of_mem among
        rw [List.length_take] at bound
        obtain ⟨found, same, kept⟩ := scan_passed scanned (i := begin_ + j) (by omega) (by omega)
        rw [List.getElem_take, List.getElem_drop]
        rw [List.getElem?_eq_getElem (by omega), Option.some.injEq] at same
        rw [same]
        exact plainByte_iff.mp kept
      have head : c ∈ ((data.drop begin_).take (n - begin_)).head? := by
        rw [List.head?_take, if_neg (by omega), here]
        exact Option.mem_some_self c
      have ends : n = max ∨ data[n]? = some SP := by
        by_cases last : n = max
        · exact .inl last
        · obtain ⟨found, same, dropped⟩ := halted (by omega)
          have blank : ¬PlainByte found := by
            rw [← plainByte_iff, dropped]
            exact Bool.false_ne_true
          have noCr : found ≠ CR := by
            rintro rfl
            exact first n (by omega) (by omega) same
          rw [same]
          refine .inr (congrArg some ?_)
          by_contra notSpace
          exact blank ⟨notSpace, noCr⟩
      exact ⟨by omega, by omega, .inr ⟨blanks, lower, nonempty, rfl,
        .inl ⟨⟨bytes, c, head, not_or.mp plain⟩, ends⟩⟩⟩

/-- No two tokens found one behind the other overlap, and none lies before the start position. -/
theorem Successive.disjoint (line : EndsLine data max) {pos : Nat} {tokens : List Token}
    (successive : Successive data max pos tokens) (start : pos ≤ max) :
    tokens.Pairwise (fun token later => token.ne ≤ later.ns) ∧
      ∀ token ∈ tokens, pos ≤ token.ns ∧ token.ne ≤ max := by
  induction successive with
  | nil => exact ⟨List.Pairwise.nil, List.forall_mem_nil _⟩
  | @cons pos n token rest run next later ih =>
    obtain ⟨same, again, within⟩ := natsToken_total line start
    rw [run, Except.ok.injEq] at again
    subst again
    obtain ⟨after, limit, place⟩ := within n next
    obtain ⟨pairwise, inside⟩ := ih limit
    have bounds : pos ≤ token.ns ∧ token.ne = n := by omega
    refine ⟨List.pairwise_cons.mpr ⟨fun other among => ?_, pairwise⟩, fun other among => ?_⟩
    · have behind := (inside other among).1
      omega
    · rcases List.mem_cons.mp among with rfl | among
      · omega
      · obtain ⟨low, high⟩ := inside other among
        omega

/-- The tokenizer is bounded, terminates and never overlaps tokens. On a line that ends with the
CR at `max` it returns, and reads nothing behind that CR: it returns the same on the bytes up to it.
Unless it refuses the rest of the line, it finds a token there, or only spaces. Tokens that are
found one behind the other are disjoint and in order, and so are those of a MSG header. -/
theorem token_bounded (s : List UInt8) (max pos : Nat) (cr : s[max]? = some CR) (start : pos ≤ max)
    (first : ∀ i, pos ≤ i → i < max → s[i]? ≠ some CR) :
    (∃ token, natsToken (s.take (max + 1)) pos max = .ok token ∧ natsToken s pos max = .ok token ∧
      ∀ n, token.next = some n → token.Found s pos max n) ∧
    (∀ tokens, Successive s max pos tokens →
      tokens.Pairwise fun token later => token.ne ≤ later.ns) ∧
    ∀ tokens, msgTokens s pos max = .ok (some tokens) → tokens.Ordered pos max := by
  have line : EndsLine s max := ⟨cr⟩
  have short : EndsLine (s.take (max + 1)) max :=
    ⟨by rw [List.getElem?_take_of_lt (Nat.lt_succ_self max), cr]⟩
  refine ⟨?_, fun tokens successive => (successive.disjoint line start).1, fun tokens run => ?_⟩
  · obtain ⟨token, run, -⟩ := natsToken_total short start
    have longer := natsToken_append (s.drop (max + 1)) run
    rw [List.take_append_drop] at longer
    exact ⟨token, run, longer, fun n next => natsToken_found line start first longer next⟩
  · obtain ⟨found, again, ordered⟩ := msgTokens_total line start
    rw [run, Except.ok.injEq] at again
    exact ordered tokens again.symm

/-- A quoted token with an escaped quote, directly followed by the next token. -/
theorem token_bounded_adjacent :
    (∃ token, natsToken ((ascii "\"a\\\"b\"7\r").take 8) 0 7 = .ok token ∧
      natsToken (ascii "\"a\\\"b\"7\r") 0 7 = .ok token ∧
      ∀ n, token.next = some n → token.Found (ascii "\"a\\\"b\"7\r") 0 7 n) ∧
    (∀ tokens, Successive (ascii "\"a\\\"b\"7\r") 7 0 tokens →
      tokens.Pairwise fun token later => token.ne ≤ later.ns) ∧
    ∀ tokens, msgTokens (ascii "\"a\\\"b\"7\r") 0 7 = .ok (some tokens) → tokens.Ordered 0 7 :=
  token_bounded _ 7 0 (by decide) (Nat.zero_le 7) (by decide)

end NgxNats
