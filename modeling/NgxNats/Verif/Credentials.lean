import NgxNats.Model.Config
import NgxNats.Verif.ActRuns
import NgxNats.Verif.JsonRoundTrip

/-!
# The credentials in the CONNECT text

The user and the password are printed between double quotes as they are. The text then carries
them exactly when they need no escapes and do not end the line.
-/
namespace NgxNats

open Dialect

/-- The bytes before the first CR that an LF follows. -/
def untilCrlf : List UInt8 → List UInt8
  | [] => []
  | c :: rest => if c = CR ∧ rest.head? = some LF then [] else c :: untilCrlf rest

/-- A CR with an LF behind it. -/
def HasCrlf (text : List UInt8) : Prop := ∃ before after, text = before ++ CR :: LF :: after

/-- Without a CR nothing ends the line. -/
theorem untilCrlf_append {first rest : List UInt8} (no_cr : CR ∉ first) :
    untilCrlf (first ++ rest) = first ++ untilCrlf rest := by
  induction first with
  | nil => rfl
  | cons c tail ih =>
    have other : c ≠ CR := by
      rintro rfl
      exact no_cr List.mem_cons_self
    rw [List.cons_append, untilCrlf, if_neg fun both => other both.1,
      ih fun inside => no_cr (List.mem_cons_of_mem c inside)]
    rfl

/-- A text without CRLF is passed when no LF follows it. -/
theorem untilCrlf_pass {first rest : List UInt8} (no_crlf : ¬HasCrlf first)
    (next : rest.head? ≠ some LF) : untilCrlf (first ++ rest) = first ++ untilCrlf rest := by
  induction first with
  | nil => rfl
  | cons c tail ih =>
    have inner : ¬HasCrlf tail := by
      rintro ⟨before, after, rfl⟩
      exact no_crlf ⟨c :: before, after, rfl⟩
    have stays : ¬(c = CR ∧ (tail ++ rest).head? = some LF) := by
      rintro ⟨rfl, follows⟩
      match tail with
      | [] => exact next follows
      | d :: after =>
        cases follows
        exact no_crlf ⟨[], after, rfl⟩
    rw [List.cons_append, untilCrlf, if_neg stays, ih inner]
    rfl

/-- A CRLF ends the line inside of the text. -/
theorem untilCrlf_length {first : List UInt8} (crlf : HasCrlf first) (rest : List UInt8) :
    (untilCrlf (first ++ rest)).length < first.length := by
  obtain ⟨before, after, rfl⟩ := crlf
  induction before with
  | nil =>
    show (untilCrlf (CR :: (LF :: after ++ rest))).length < _
    rw [untilCrlf, if_pos ⟨rfl, rfl⟩]
    exact Nat.succ_pos _
  | cons c tail ih =>
    rw [List.cons_append, List.cons_append, untilCrlf]
    split
    · exact Nat.succ_pos _
    · rw [List.length_cons, List.length_cons]
      exact Nat.succ_lt_succ ih

/-- Behind an escaped backslash the bytes that were decoded never catch up with the text. -/
theorem content_behind {body bytes tail rest : List UInt8} {lead : Nat}
    (content : Content 34 body bytes) (positive : 0 < lead)
    (same : List.replicate lead 92 ++ (body ++ 34 :: rest) = bytes ++ 34 :: tail) : False := by
  induction content generalizing lead with
  | nil =>
    obtain ⟨fewer, rfl⟩ := Nat.exists_eq_succ_of_ne_zero (Nat.ne_of_gt positive)
    rw [List.replicate_succ] at same
    cases same
  | @plain c body bytes other unescaped content ih =>
    obtain ⟨fewer, rfl⟩ := Nat.exists_eq_succ_of_ne_zero (Nat.ne_of_gt positive)
    rw [List.replicate_succ] at same
    exact unescaped (List.cons.inj same).1.symm
  | @escape letter c body bytes known content ih =>
    obtain ⟨fewer, rfl⟩ := Nat.exists_eq_succ_of_ne_zero (Nat.ne_of_gt positive)
    rw [List.replicate_succ] at same
    obtain ⟨first, more⟩ := List.cons.inj same
    have backslash : letter = 92 := by
      subst first
      revert known
      unfold escapes
      simp
    subst backslash
    have grown : List.replicate (fewer + 2) 92 ++ (body ++ 34 :: rest) =
        List.replicate fewer 92 ++ 92 :: 92 :: (body ++ 34 :: rest) := by
      rw [List.replicate_add, List.append_assoc]
      rfl
    exact ih (Nat.succ_pos (fewer + 1)) (grown.trans more)

/-- A string that decodes to the very text it stands in has no quote and no backslash. -/
theorem content_verbatim {body bytes tail rest : List UInt8} (content : Content 34 body bytes)
    (same : body ++ 34 :: rest = bytes ++ 34 :: tail) : ∀ c ∈ bytes, c ≠ 34 ∧ c ≠ 92 := by
  induction content with
  | nil => exact fun c none => absurd none List.not_mem_nil
  | @plain c body bytes other unescaped content ih =>
    intro d inside
    rcases List.mem_cons.mp inside with rfl | later
    · exact ⟨other, unescaped⟩
    · exact ih (List.cons.inj same).2 d later
  | @escape letter c body bytes known content ih =>
    obtain ⟨first, more⟩ := List.cons.inj same
    have backslash : letter = 92 := by
      subst first
      revert known
      unfold escapes
      simp
    subst backslash
    exact False.elim (content_behind content (Nat.succ_pos 0) more)

variable {strtod : List UInt8 → Nat × Nat}

/-- The grammar reads at most one value from a text. -/
theorem Dialect.Reads.unique {b : List UInt8} {n m : Nat} {first second : JsonValue}
    (reads : Dialect.Reads strtod b n first) (also : Dialect.Reads strtod b m second) :
    n = m ∧ first = second := by
  have allocates : ∀ n, (JsonEnv.mk (fun _ => true) strtod).pool n = true := fun _ => rfl
  have same := (jsonParse_run allocates reads).symm.trans (jsonParse_run allocates also)
  cases same
  exact ⟨rfl, rfl⟩

/-- A string without escapes is read up to its closing quote. -/
theorem reads_string {bytes : List UInt8} (plain : ∀ c ∈ bytes, c ≠ 34 ∧ c ≠ 92)
    (short : bytes.length ≤ 1048574) (rest : List UInt8) :
    Dialect.Reads strtod (34 :: (bytes ++ 34 :: rest)) (bytes.length + 2) (.string bytes) := by
  have quoted : Quoted ([34] ++ bytes ++ [34]) bytes :=
    .intro (Or.inl rfl) (Json.content_self plain) short
  refine ⟨[], [34] ++ bytes ++ [34], rest, ?_, ?_, spaces_nil, .string quoted, False.elim⟩
  · simp only [List.append_assoc, List.nil_append, List.cons_append]
  · simp only [List.length_append, List.length_singleton, List.length_nil]
    omega

/-- `false` is read before a comma. -/
theorem reads_false (rest : List UInt8) :
    Dialect.Reads strtod (102 :: 97 :: 108 :: 115 :: 101 :: 44 :: rest) 5 (.boolean 0) := by
  refine ⟨[], [102, 97, 108, 115, 101], 44 :: rest, rfl, rfl, spaces_nil,
    .token (by decide +kernel) (.falseWord (by decide)), fun _ c first => ?_⟩
  cases first
  decide

/-- A byte behind a gap that starts with no space comes first. -/
theorem gap_first {gap rest after : List UInt8} {c d : UInt8} (blank : Spaces gap)
    (same : gap ++ d :: rest = c :: after) (solid : c ∉ spaces) :
    gap = [] ∧ d = c ∧ rest = after := by
  match gap with
  | [] =>
    cases same
    exact ⟨rfl, rfl, rfl⟩
  | space :: _ =>
    cases same
    exact absurd (blank c List.mem_cons_self) solid

/-- The first field of an object whose text starts with a known name: the value is read behind the
colon, and behind it the object ends or goes on after a comma. -/
theorem members_first {text rest name after : List UInt8} {fields : List (List UInt8 × JsonValue)}
    (members : Members strtod text fields) (plain : ∀ c ∈ name, c ≠ 34 ∧ c ≠ 92)
    (short : name.length ≤ 1048574)
    (same : text ++ 125 :: rest = 34 :: (name ++ 34 :: 58 :: after)) :
    ∃ value more n behind d tail, fields = (name, value) :: more ∧
      Dialect.Reads strtod after n value ∧
      after.drop n = behind ++ d :: tail ∧ Spaces behind ∧
      (d = 125 ∧ more = [] ∨ d = 44 ∧ ∃ others, Members strtod others more ∧
        tail = others ++ 125 :: rest) := by
  -- the first field, and what stands behind it
  obtain ⟨head, field, more, d, tail, member, first, split, stops, others⟩ :
      ∃ head field more d tail, Member strtod head field ∧ fields = field :: more ∧
        text ++ 125 :: rest = head ++ d :: tail ∧ d ∈ delimiters ∧
        (d = 125 ∧ more = [] ∨ d = 44 ∧ ∃ others, Members strtod others more ∧
          tail = others ++ 125 :: rest) := by
    cases members with
    | @one _ field member =>
      exact ⟨text, field, [], 125, rest, member, rfl, rfl, by decide, Or.inl ⟨rfl, rfl⟩⟩
    | @more head others field more member members =>
      refine ⟨head, field, more, 44, others ++ 125 :: rest, member, rfl, ?_, by decide,
        Or.inr ⟨rfl, others, members, rfl⟩⟩
      simp only [List.append_assoc, List.cons_append, List.nil_append]
  cases member with
  | @intro before label between gap value behind key derived firstGap quoted named secondGap
      thirdGap derives lastGap =>
    rw [same] at split
    simp only [List.append_assoc, List.cons_append, List.nil_append] at split
    -- the name is the string that is read at the start
    have label_reads : Dialect.Reads strtod (34 :: (name ++ 34 :: 58 :: after))
        (before.length + label.length) (.string key) := by
      refine ⟨before, label, between ++ 58 :: (gap ++ (value ++ (behind ++ d :: tail))), ?_, rfl,
        firstGap, .string quoted, False.elim⟩
      rw [split, List.append_assoc]
    obtain ⟨count, name_eq⟩ := label_reads.unique (reads_string plain short (58 :: after))
    cases name_eq
    have behindLabel := congrArg (List.drop (before.length + label.length)) split
    rw [← List.append_assoc, ← List.length_append, List.drop_left, List.length_append, count]
      at behindLabel
    have dropped : (34 :: (name ++ 34 :: 58 :: after)).drop (name.length + 2) = 58 :: after := by
      rw [List.drop_succ_cons, ← List.drop_drop, List.drop_left]
      rfl
    rw [dropped] at behindLabel
    obtain ⟨-, -, value_split⟩ := gap_first secondGap behindLabel.symm (by decide)
    have ended : Ended (behind ++ d :: tail) := Json.ended_gap lastGap stops
    refine ⟨derived, more, gap.length + value.length, behind, d, tail, first, ?_, ?_, lastGap,
      others⟩
    · refine ⟨gap, value, behind ++ d :: tail, ?_, rfl, thirdGap, derives, fun _ => ended⟩
      rw [← value_split, List.append_assoc]
    · rw [← value_split, ← List.append_assoc, ← List.length_append, List.drop_left]

/-- The next field, when the value of the first one is known. -/
theorem members_next {text rest name after tail : List UInt8} {n : Nat} {known : JsonValue}
    {fields : List (List UInt8 × JsonValue)} (members : Members strtod text fields)
    (plain : ∀ c ∈ name, c ≠ 34 ∧ c ≠ 92) (short : name.length ≤ 1048574)
    (same : text ++ 125 :: rest = 34 :: (name ++ 34 :: 58 :: after))
    (reads : Dialect.Reads strtod after n known) (comma : after.drop n = 44 :: tail) :
    ∃ more others, fields = (name, known) :: more ∧ Members strtod others more ∧
      tail = others ++ 125 :: rest := by
  obtain ⟨value, more, m, behind, d, back, first, also, split, blank, goes_on⟩ :=
    members_first members plain short same
  obtain ⟨count, value_eq⟩ := also.unique reads
  subst value_eq
  rw [count, comma] at split
  obtain ⟨-, is, rest_eq⟩ := gap_first blank split.symm (by decide)
  rcases goes_on with ⟨close, _⟩ | ⟨_, others, members, back_eq⟩
  · rw [is] at close
    exact absurd close (by decide)
  · exact ⟨more, others, first, members, by rw [← rest_eq, back_eq]⟩

/-- The line of the CONNECT text without its operation. -/
def connectJson (env : Env) : List UInt8 := untilCrlf ((connstr env).drop 8)

/-- The object has a field of the name, and every field of the name is that string. -/
def FieldIs (fields : List (List UInt8 × JsonValue)) (name bytes : List UInt8) : Prop :=
  (name, JsonValue.string bytes) ∈ fields ∧
    ∀ value, (name, value) ∈ fields → value = .string bytes

/-- The text fits its array and starts with the operation, and the module's own parser reads the
user and the password from the rest of its first line. -/
structure CarriesCredentials (env : Env) (json : JsonEnv) : Prop where
  whole : connstr env = connectText env
  operation : (connstr env).take 8 = ascii "CONNECT "
  parsed : ∃ n fields, jsonParse json (.ofList (connectJson env)) = .ok (.ok (n, .object fields)) ∧
    FieldIs fields (ascii "user") env.user ∧ FieldIs fields (ascii "pass") env.password

/-- No double quote, no backslash and no CRLF. -/
def Verbatim (bytes : List UInt8) : Prop := (∀ c ∈ bytes, c ≠ 34 ∧ c ≠ 92) ∧ ¬HasCrlf bytes

/-- The CONNECT text in pieces: what stands before the user, between user and password, and
behind. -/
def beforeUser : List UInt8 :=
  ascii "\x7b\"verbose\":false,\"pedantic\":false,\"user\":\""
/-- What stands between user and password. -/
def beforePass : List UInt8 := ascii "\",\"pass\":\""
/-- What stands behind the password in its line. -/
def behindPass : List UInt8 := ascii "\",\"lang\":\"c-nginx\"\x7d"

/-- The CONNECT text, with its line in pieces. -/
theorem connectText_eq (env : Env) : connectText env =
    ascii "CONNECT " ++ (beforeUser ++ (env.user ++ (beforePass ++ (env.password ++
      (behindPass ++ ascii "\r\nPING\r\n"))))) := by
  have first : ascii "CONNECT \x7b\"verbose\":false,\"pedantic\":false,\"user\":\"" =
      ascii "CONNECT " ++ beforeUser := by decide
  have last : ascii "\",\"lang\":\"c-nginx\"\x7d\r\nPING\r\n" =
      behindPass ++ ascii "\r\nPING\r\n" := by decide
  unfold connectText
  rw [first, last]
  simp only [List.append_assoc, beforePass]

/-- The credentials of an accepted configuration have 512 bytes at most. -/
theorem configured_short {env : Env} {conf : CoreConf} (configured : env.Configured conf) :
    env.user.length + env.password.length ≤ 512 := by
  unfold Env.Configured coreInitConf at configured
  simp only at configured
  split at configured
  · cases configured
  · next accepted =>
    simp only [Option.some.injEq, CoreConf.mk.injEq] at configured
    rw [← configured.2.2.1, ← configured.2.2.2]
    exact Nat.le_of_not_lt accepted

/-- The credentials of an accepted configuration fit the array. -/
theorem connstr_whole {env : Env} {conf : CoreConf} (configured : env.Configured conf) :
    connstr env = connectText env := by
  have short := configured_short configured
  have before : beforeUser.length = 42 := by decide
  have between : beforePass.length = 10 := by decide
  have behind : behindPass.length = 19 := by decide
  have operation : (ascii "CONNECT ").length = 8 := by decide
  have ping : (ascii "\r\nPING\r\n").length = 8 := by decide
  apply snprintf_of_fits
  rw [connectText_eq]
  simp only [List.length_append, before, between, behind, operation, ping]
  unfold connstrSize
  omega

/-- The line of the CONNECT text is cut where the credentials cut it. -/
theorem connectJson_eq {env : Env} (whole : connstr env = connectText env) :
    connectJson env = beforeUser ++ untilCrlf (env.user ++ (beforePass ++ (env.password ++
      (behindPass ++ ascii "\r\nPING\r\n")))) := by
  unfold connectJson
  rw [whole, connectText_eq, List.drop_left' (by decide)]
  exact untilCrlf_append (by decide)

/-- A field without gaps. -/
theorem member_of {name text : List UInt8} {value : JsonValue} (plain : ∀ c ∈ name, c ≠ 34 ∧ c ≠ 92)
    (short : name.length ≤ 1048574) (named : name ≠ []) (derives : Value strtod text value) :
    Member strtod (34 :: (name ++ 34 :: 58 :: text)) (name, value) := by
  have quoted : Quoted ([34] ++ name ++ [34]) name :=
    .intro (Or.inl rfl) (Json.content_self plain) short
  have member := Member.intro spaces_nil quoted named spaces_nil spaces_nil derives spaces_nil
  simp only [List.append_assoc, List.nil_append, List.append_nil, List.cons_append] at member
  exact member

/-- A string without escapes is its own content. -/
theorem value_string {bytes : List UInt8} (plain : ∀ c ∈ bytes, c ≠ 34 ∧ c ≠ 92)
    (short : bytes.length ≤ 1048574) :
    Value strtod (34 :: (bytes ++ [34])) (.string bytes) :=
  .string (.intro (Or.inl rfl) (Json.content_self plain) short)

/-- The fields of the CONNECT text. -/
def connectFields (env : Env) : List (List UInt8 × JsonValue) :=
  [(ascii "verbose", .boolean 0), (ascii "pedantic", .boolean 0), (ascii "user", .string env.user),
    (ascii "pass", .string env.password), (ascii "lang", .string (ascii "c-nginx"))]

/-- Credentials that need no escapes are the strings of the object that is sent. -/
theorem connectFields_derive {env : Env} (user : ∀ c ∈ env.user, c ≠ 34 ∧ c ≠ 92)
    (password : ∀ c ∈ env.password, c ≠ 34 ∧ c ≠ 92) (userShort : env.user.length ≤ 1048574)
    (passShort : env.password.length ≤ 1048574) :
    Value strtod (beforeUser ++ (env.user ++ (beforePass ++ (env.password ++ behindPass))))
      (.object (connectFields env)) := by
  have no : Value strtod (ascii "false") (.boolean 0) :=
    .token (by decide +kernel) (.falseWord (by decide))
  have verbose : Member strtod _ (ascii "verbose", _) :=
    member_of (by decide +kernel) (by decide) (by decide) no
  have pedantic : Member strtod _ (ascii "pedantic", _) :=
    member_of (by decide +kernel) (by decide) (by decide) no
  have userField : Member strtod _ (ascii "user", _) :=
    member_of (by decide +kernel) (by decide) (by decide) (value_string user userShort)
  have passField : Member strtod _ (ascii "pass", _) :=
    member_of (by decide +kernel) (by decide) (by decide) (value_string password passShort)
  have lang : Value strtod _ (.string (ascii "c-nginx")) :=
    value_string (by decide +kernel) (by decide)
  have langField : Member strtod _ (ascii "lang", _) :=
    member_of (by decide +kernel) (by decide) (by decide) lang
  have whole := Value.object (.more verbose (.more pedantic (.more userField (.more passField
    (.one langField)))))
  have first : beforeUser =
      [123] ++ (34 :: (ascii "verbose" ++ 34 :: 58 :: ascii "false") ++ [44] ++
      (34 :: (ascii "pedantic" ++ 34 :: 58 :: ascii "false") ++ [44] ++
        (34 :: (ascii "user" ++ [34, 58, 34])))) := by decide
  have between : beforePass = 34 :: 44 :: 34 :: (ascii "pass" ++ [34, 58, 34]) := by decide
  have last : behindPass = 34 :: 44 :: 34 :: (ascii "lang" ++ 34 :: 58 :: 34 ::
      (ascii "c-nginx" ++ [34, 125])) := by decide
  rw [first, between, last]
  simp only [List.append_assoc, List.cons_append, List.nil_append] at whole ⊢
  exact whole

/-- A field of the CONNECT text is what it says when its name stands there once. -/
theorem fieldIs_of {fields before after : List (List UInt8 × JsonValue)} {name bytes : List UInt8}
    (split : fields = before ++ (name, .string bytes) :: after)
    (once : name ∉ (before ++ after).map Prod.fst) : FieldIs fields name bytes := by
  subst split
  have other : ∀ value, (name, value) ∉ before ++ after := fun value inside =>
    once (List.mem_map.mpr ⟨_, inside, rfl⟩)
  refine ⟨List.mem_append_right _ List.mem_cons_self, fun value inside => ?_⟩
  rcases List.mem_append.mp inside with early | late
  · exact absurd (List.mem_append_left _ early) (other value)
  · rcases List.mem_cons.mp late with same | later
    · cases same
      rfl
    · exact absurd (List.mem_append_right _ later) (other value)

/-- Credentials without quotes, backslashes and line ends are carried. -/
theorem carries_of_verbatim {env : Env} {json : JsonEnv} (allocates : ∀ n, json.pool n = true)
    (whole : connstr env = connectText env)
    (short : env.user.length + env.password.length ≤ 512) (user : Verbatim env.user)
    (password : Verbatim env.password) : CarriesCredentials env json where
  whole := whole
  operation := by
    rw [whole, connectText_eq]
    exact List.take_left' (by decide)
  parsed := by
    have line : connectJson env =
        beforeUser ++ (env.user ++ (beforePass ++ (env.password ++ behindPass))) := by
      have between : (beforePass ++ (env.password ++ (behindPass ++
          ascii "\r\nPING\r\n"))).head? ≠ some LF := by
        have first : beforePass = 34 :: (ascii ",\"pass\":\"") := by decide
        rw [first]
        exact fun is => absurd (Option.some.inj is) (by decide)
      have last : (behindPass ++ ascii "\r\nPING\r\n").head? ≠ some LF := by decide
      rw [connectJson_eq whole, untilCrlf_pass user.2 between, untilCrlf_append (by decide),
        untilCrlf_pass password.2 last, untilCrlf_append (by decide)]
      have nothing : untilCrlf (ascii "\r\nPING\r\n") = [] := by decide
      rw [nothing, List.append_nil]
    have derives := @connectFields_derive json.strtod env user.1 password.1
      (by omega) (by omega)
    rw [← line] at derives
    refine ⟨(connectJson env).length, connectFields env, jsonParse_run allocates ?_, ?_, ?_⟩
    · refine ⟨[], connectJson env, [], ?_, ?_, spaces_nil, derives, False.elim⟩
      · rw [List.nil_append, List.append_nil]
      · rw [List.length_nil, Nat.zero_add]
    · apply @fieldIs_of _ [(ascii "verbose", .boolean 0), (ascii "pedantic", .boolean 0)] _ _ _ rfl
      show ascii "user" ∉ [ascii "verbose", ascii "pedantic", ascii "pass", ascii "lang"]
      decide
    · apply @fieldIs_of _ [(ascii "verbose", .boolean 0), (ascii "pedantic", .boolean 0),
        (ascii "user", .string env.user)] _ _ _ rfl
      show ascii "pass" ∉ [ascii "verbose", ascii "pedantic", ascii "user", ascii "lang"]
      decide

/-- A string that is read from a quote on is the content before the next one. -/
theorem reads_content {text bytes : List UInt8} {n : Nat}
    (reads : Dialect.Reads strtod (34 :: text) n (.string bytes)) :
    ∃ body rest, text = body ++ 34 :: rest ∧ Content 34 body bytes := by
  obtain ⟨gap, token, rest, split, _, blank, derives, _⟩ := reads
  obtain ⟨c, tail, rfl, solid, _⟩ := Json.Value.head derives
  rw [List.append_assoc] at split
  obtain ⟨-, rfl, -⟩ := gap_first blank split.symm (by decide)
  generalize same : 34 :: tail = quoted at derives
  cases derives with
  | token whole derives => cases derives
  | string quoted =>
    cases quoted with
    | @intro q body bytes quote content short =>
      cases same
      obtain ⟨-, -, text_eq⟩ := gap_first blank split.symm (by decide)
      refine ⟨body, rest, ?_, content⟩
      rw [← text_eq]
      simp only [List.append_eq, List.append_assoc, List.cons_append, List.nil_append]

/-- Decoding does not make a string longer. -/
theorem content_length {q : UInt8} {body bytes : List UInt8} (content : Content q body bytes) :
    bytes.length ≤ body.length := by
  induction content with
  | nil => exact Nat.le_refl _
  | plain other unescaped content ih => exact Nat.succ_le_succ ih
  | escape known content ih => exact Nat.le_succ_of_le (Nat.succ_le_succ ih)

/-- A string that is read back from a line is not changed by it. -/
theorem verbatim_of_reads {bytes tail : List UInt8} {n : Nat}
    (reads : Dialect.Reads strtod (34 :: untilCrlf (bytes ++ 34 :: tail)) n (.string bytes)) :
    Verbatim bytes := by
  obtain ⟨body, rest, split, content⟩ := reads_content reads
  have no_crlf : ¬HasCrlf bytes := by
    intro crlf
    have cut := untilCrlf_length crlf (34 :: tail)
    have decoded := content_length content
    rw [split, List.length_append, List.length_cons] at cut
    omega
  have next : (34 :: tail).head? ≠ some LF := fun is => absurd (Option.some.inj is) (by decide)
  rw [untilCrlf_pass no_crlf next] at split
  have stays : untilCrlf (34 :: tail) = 34 :: untilCrlf tail := by
    rw [untilCrlf, if_neg fun both => absurd both.1 (by decide)]
  rw [stays] at split
  exact ⟨content_verbatim content split.symm, no_crlf⟩

/-- An object that is read has its fields between the braces. -/
theorem reads_object {text : List UInt8} {n : Nat} {fields : List (List UInt8 × JsonValue)}
    (reads : Dialect.Reads strtod (123 :: text) n (.object fields)) (some : fields ≠ []) :
    ∃ inner rest, text = inner ++ 125 :: rest ∧ Members strtod inner fields := by
  obtain ⟨gap, token, rest, split, _, blank, derives, _⟩ := reads
  obtain ⟨c, tail, rfl, solid, _⟩ := Json.Value.head derives
  rw [List.append_assoc] at split
  obtain ⟨-, rfl, -⟩ := gap_first blank split.symm (by decide)
  generalize same : 123 :: tail = braced at derives
  cases derives with
  | token whole derives => cases derives
  | emptyObject => exact absurd rfl some
  | @object inner _ members =>
    cases same
    obtain ⟨-, -, text_eq⟩ := gap_first blank split.symm (by decide)
    refine ⟨inner, rest, ?_, members⟩
    rw [← text_eq]
    simp only [List.append_eq, List.append_assoc, List.cons_append, List.nil_append]

/-- A field whose value is what was printed into it needs no escapes. -/
theorem verbatim_of_field {text rest name bytes tail : List UInt8}
    {fields : List (List UInt8 × JsonValue)} (members : Members strtod text fields)
    (plain : ∀ c ∈ name, c ≠ 34 ∧ c ≠ 92) (short : name.length ≤ 1048574)
    (same : text ++ 125 :: rest = 34 :: (name ++ 34 :: 58 :: 34 :: untilCrlf (bytes ++ 34 :: tail)))
    (is : ∀ value, (name, value) ∈ fields → value = .string bytes) : Verbatim bytes := by
  obtain ⟨value, more, n, behind, d, back, first, reads, _⟩ :=
    members_first members plain short same
  have valueIs := is value (by rw [first]; exact List.mem_cons_self)
  rw [valueIs] at reads
  exact verbatim_of_reads reads

/-- Behind a string that needs no escapes the next field follows. -/
theorem members_behind {text rest name bytes tail : List UInt8}
    {fields : List (List UInt8 × JsonValue)} (members : Members strtod text fields)
    (plain : ∀ c ∈ name, c ≠ 34 ∧ c ≠ 92) (short : name.length ≤ 1048574)
    (same : text ++ 125 :: rest =
      34 :: (name ++ 34 :: 58 :: 34 :: untilCrlf (bytes ++ 34 :: 44 :: tail)))
    (verbatim : Verbatim bytes) (fits : bytes.length ≤ 1048574) :
    ∃ more others, fields = (name, .string bytes) :: more ∧ Members strtod others more ∧
      untilCrlf tail = others ++ 125 :: rest := by
  have next : (34 :: 44 :: tail).head? ≠ some LF :=
    fun is => absurd (Option.some.inj is) (by decide)
  have stays : untilCrlf (34 :: 44 :: tail) = 34 :: 44 :: untilCrlf tail :=
    @untilCrlf_append [34, 44] tail (by decide)
  rw [untilCrlf_pass verbatim.2 next, stays] at same
  apply members_next members plain short same (reads_string verbatim.1 fits _)
  rw [List.drop_succ_cons, ← List.drop_drop, List.drop_left]
  rfl

/-- The name of a field does not end the line. -/
theorem untilCrlf_name {name rest : List UInt8} (no_cr : CR ∉ name) :
    untilCrlf (34 :: (name ++ 34 :: 58 :: 34 :: rest)) =
      34 :: (name ++ 34 :: 58 :: 34 :: untilCrlf rest) := by
  have passed : CR ∉ 34 :: (name ++ [34, 58, 34]) := by
    intro inside
    rcases List.mem_cons.mp inside with is | inside
    · exact absurd is (by decide)
    · rcases List.mem_append.mp inside with early | late
      · exact no_cr early
      · exact absurd late (by decide)
  have whole : untilCrlf (_ ++ rest) = _ ++ untilCrlf rest := untilCrlf_append passed
  simp only [List.append_assoc, List.cons_append, List.nil_append] at whole
  exact whole

/-- Credentials that are carried need no escapes and do not end the line. -/
theorem verbatim_of_carries {env : Env} {json : JsonEnv}
    (whole : connstr env = connectText env)
    (short : env.user.length + env.password.length ≤ 512) (carries : CarriesCredentials env json) :
    Verbatim env.user ∧ Verbatim env.password := by
  obtain ⟨n, fields, parsed, userField, passField⟩ := carries.parsed
  have reads := jsonParse_reads parsed
  have nonempty : fields ≠ [] := List.ne_nil_of_mem userField.1
  have pieces : beforeUser = 123 :: 34 :: (ascii "verbose" ++ 34 :: 58 :: 102 :: 97 :: 108 :: 115 ::
      101 :: 44 :: 34 :: (ascii "pedantic" ++ 34 :: 58 :: 102 :: 97 :: 108 :: 115 :: 101 :: 44 ::
        34 :: (ascii "user" ++ [34, 58, 34]))) := by decide
  have between : beforePass = 34 :: 44 :: 34 :: (ascii "pass" ++ [34, 58, 34]) := by decide
  have last : behindPass = 34 :: ascii ",\"lang\":\"c-nginx\"\x7d" := by decide
  rw [connectJson_eq whole, pieces, between, last] at reads
  simp only [List.append_assoc, List.cons_append, List.nil_append] at reads
  obtain ⟨inner, rest, text, members⟩ := reads_object reads nonempty
  obtain ⟨more, others, rfl, members, text⟩ := members_next members (by decide +kernel) (by decide)
    text.symm (reads_false _) rfl
  obtain ⟨more, others, rfl, members, text⟩ := members_next members (by decide +kernel) (by decide)
    text.symm (reads_false _) rfl
  have user : Verbatim env.user := by
    apply verbatim_of_field members (by decide +kernel) (by decide) text.symm
    intro value inside
    exact userField.2 value (List.mem_cons_of_mem _ (List.mem_cons_of_mem _ inside))
  refine ⟨user, ?_⟩
  obtain ⟨more, others, rfl, members, text⟩ := members_behind members (by decide +kernel)
    (by decide) text.symm user (by omega)
  rw [untilCrlf_name (by decide)] at text
  apply verbatim_of_field members (by decide +kernel) (by decide) text.symm
  intro value inside
  exact passField.2 value (List.mem_cons_of_mem _ (List.mem_cons_of_mem _
    (List.mem_cons_of_mem _ inside)))

/-- The CONNECT text carries the configured credentials exactly when neither of them contains a
double quote, a backslash or a CRLF. It is never truncated. -/
theorem credentials_carried (env : Env) (conf : CoreConf) (configured : env.Configured conf)
    (json : JsonEnv) (allocates : ∀ n, json.pool n = true) :
    connstr env = connectText env ∧
      (CarriesCredentials env json ↔ Verbatim env.user ∧ Verbatim env.password) := by
  have whole := connstr_whole configured
  have short := configured_short configured
  refine ⟨whole, verbatim_of_carries whole short, ?_⟩
  rintro ⟨user, password⟩
  exact carries_of_verbatim allocates whole short user password

/-- A text without CR has no CRLF. -/
theorem no_crlf_of_no_cr {text : List UInt8} (no_cr : CR ∉ text) : ¬HasCrlf text := by
  rintro ⟨before, after, rfl⟩
  exact no_cr (List.mem_append_right before List.mem_cons_self)

/-- An environment for a user with an empty password. -/
def userNamed (name : String) : Env := { granting with user := ascii name, password := [] }

/-- The configuration of that user. -/
def confNamed (name : String) : CoreConf where
  reconnectInterval := some 2000
  user := some (ascii name)

/-- The user `ann` is carried. -/
theorem credentials_carried_ann :
    connstr (userNamed "ann") = connectText (userNamed "ann") ∧
      CarriesCredentials (userNamed "ann") plainJson := by
  have carried := credentials_carried (userNamed "ann") (confNamed "ann")
    (by unfold Env.Configured; decide) plainJson fun _ => rfl
  have nothing : Verbatim [] := ⟨fun c none => absurd none List.not_mem_nil,
    no_crlf_of_no_cr List.not_mem_nil⟩
  exact ⟨carried.1, carried.2.mpr ⟨⟨by decide +kernel, no_crlf_of_no_cr (by decide)⟩, nothing⟩⟩

/-- The user `a"b` is accepted by the configuration, and the text does not carry it. -/
theorem quoted_user_lost :
    ¬∀ (env : Env) (conf : CoreConf) (json : JsonEnv), env.Configured conf →
      (∀ n, json.pool n = true) → CarriesCredentials env json := by
  intro carried
  have configured : (userNamed "a\"b").Configured (confNamed "a\"b") := by
    unfold Env.Configured
    decide
  have allocates : ∀ n, plainJson.pool n = true := fun _ => rfl
  have plain := verbatim_of_carries (connstr_whole configured)
    (configured_short configured) (carried _ _ plainJson configured allocates)
  exact absurd rfl (plain.1.1 34 (by decide)).1

end NgxNats
