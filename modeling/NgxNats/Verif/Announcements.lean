import NgxNats.Verif.JsonRoundTrip
import NgxNats.Verif.Transcript

/-!
# What a server announces

The fields of INFO messages, from the bytes of a stream to the connection structure. Whatever pieces
the messages arrive in, the connection goes on exactly when every field that the module looks for
has a value of its type, and it then remembers the last value that was announced under each name.
-/
namespace NgxNats

/-- The last value of its type under a name, whatever the case of its letters. -/
def lastNamed {α : Type} (name : String) (read : JsonValue → Option α)
    (fields : List (List UInt8 × JsonValue)) : Option α :=
  (fields.filterMap fun field => if strcasecmp field.1 name then read field.2 else none).getLast?

/-- A connection that was told fields. -/
def NatsConnection.remember (nc : NatsConnection) (fields : List (List UInt8 × JsonValue)) :
    NatsConnection := { nc with
  srvId := (lastNamed "server_id" JsonValue.text fields).or nc.srvId
  srvHost := (lastNamed "host" JsonValue.text fields).or nc.srvHost
  srvPort := (lastNamed "port" JsonValue.number fields).getD nc.srvPort
  srvVersion := (lastNamed "version" JsonValue.text fields).or nc.srvVersion
  srvAuthRequired := (lastNamed "auth_required" JsonValue.truth fields).getD nc.srvAuthRequired
  srvSslRequired := (lastNamed "ssl_required" JsonValue.truth fields).getD nc.srvSslRequired
  srvMaxPayload := (lastNamed "max_payload" JsonValue.number fields).getD nc.srvMaxPayload
  goVersion := (lastNamed "go" JsonValue.text fields).or nc.goVersion }

section Fields

variable {α : Type} {nc nc' : NatsConnection} {name : List UInt8} {value : JsonValue}
  {fields more : List (List UInt8 × JsonValue)}

/-- Later fields come first. -/
theorem lastNamed_append (name : String) (read : JsonValue → Option α)
    (fields more : List (List UInt8 × JsonValue)) : lastNamed name read (fields ++ more) =
      (lastNamed name read more).or (lastNamed name read fields) := by
  unfold lastNamed
  rw [List.filterMap_append, List.getLast?_append]

/-- Fields that are told one after the other. -/
theorem NatsConnection.remember_append (nc : NatsConnection)
    (fields more : List (List UInt8 × JsonValue)) :
    nc.remember (fields ++ more) = (nc.remember fields).remember more := by
  have default {α : Type} (later earlier : Option α) (kept : α) :
      (later.or earlier).getD kept = later.getD (earlier.getD kept) := by
    cases later with
    | none => rfl
    | some value => rfl
  unfold NatsConnection.remember
  simp only [lastNamed_append, Option.or_assoc, default]

/-- So the letters of a name do not matter. -/
theorem remember_matched {literal : String} (matched : strcasecmp name literal = true)
    (whole : (ascii literal).takeWhile (· ≠ 0) = ascii literal) (nc : NatsConnection)
    (value : JsonValue) : nc.remember [(name, value)] = nc.remember [(ascii literal, value)] := by
  have same {α : Type} (other : String) (read : JsonValue → Option α) :
      lastNamed other read [(name, value)] = lastNamed other read [(ascii literal, value)] := by
    unfold lastNamed
    rw [List.filterMap_cons, List.filterMap_cons]
    dsimp only
    rw [strcasecmp_same matched whole other]
  unfold NatsConnection.remember
  simp only [same]

/-- A field of another name is forgotten. -/
theorem remember_unmatched (nc : NatsConnection) (value : JsonValue)
    (others : ∀ literal ∈ infoNames, strcasecmp name literal = false) :
    nc.remember [(name, value)] = nc := by
  have none {α : Type} (literal : String) (read : JsonValue → Option α)
      (other : strcasecmp name literal = false) :
      lastNamed literal read [(name, value)] = none := by
    unfold lastNamed
    rw [List.filterMap_cons]
    dsimp only
    rw [other]
    rfl
  unfold infoNames infoTypes at others
  simp only [List.map_cons, List.map_nil, List.forall_mem_cons] at others
  obtain ⟨id, host, port, version, auth, ssl, payload, go, -⟩ := others
  unfold NatsConnection.remember
  rw [none _ _ id, none _ _ host, none _ _ port, none _ _ version, none _ _ auth, none _ _ ssl,
    none _ _ payload, none _ _ go]
  rfl

/-- A field with one of the names is refused, or taken over and remembered. -/
theorem infoField_told (nc : NatsConnection) (value : JsonValue) : ∀ literal ∈ infoNames,
    infoField nc (ascii literal) value = none ∨
      infoField nc (ascii literal) value = some (nc.remember [(ascii literal, value)]) := by
  unfold infoNames infoTypes
  simp only [List.map_cons, List.map_nil, List.forall_mem_cons]
  -- In the order of the names: a text, a text, a number, a text, two truth values, a number, a text.
  cases value with
  | string =>
    exact ⟨.inr rfl, .inr rfl, .inl rfl, .inr rfl, .inl rfl, .inl rfl, .inl rfl, .inr rfl,
      List.forall_mem_nil _⟩
  | integer =>
    exact ⟨.inl rfl, .inl rfl, .inr rfl, .inl rfl, .inl rfl, .inl rfl, .inr rfl, .inl rfl,
      List.forall_mem_nil _⟩
  | boolean =>
    exact ⟨.inl rfl, .inl rfl, .inl rfl, .inl rfl, .inr rfl, .inr rfl, .inl rfl, .inl rfl,
      List.forall_mem_nil _⟩
  | _ =>
    exact ⟨.inl rfl, .inl rfl, .inl rfl, .inl rfl, .inl rfl, .inl rfl, .inl rfl, .inl rfl,
      List.forall_mem_nil _⟩

/-- A field that is taken over is remembered. -/
theorem infoField_remember (taken : infoField nc name value = some nc') :
    nc' = nc.remember [(name, value)] := by
  rcases infoNames_cases name with ⟨literal, listed, matched⟩ | others
  · have whole := infoNames_whole literal listed
    rw [infoField_matched matched whole] at taken
    rw [remember_matched matched whole]
    rcases infoField_told nc value literal listed with refused | told
    · rw [refused] at taken
      cases taken
    · rw [told] at taken
      exact (Option.some.inj taken).symm
  · rw [infoField_other others] at taken
    rw [remember_unmatched nc value others]
    exact (Option.some.inj taken).symm

/-- Fields are taken over exactly when each has a value of its type, and are remembered then. -/
theorem infoFields_remember (nc : NatsConnection) (fields : List (List UInt8 × JsonValue)) :
    ((infoFields nc fields).2 = true ↔ ∀ field ∈ fields, wellTyped field = true) ∧
      ((infoFields nc fields).2 = true → (infoFields nc fields).1 = nc.remember fields) := by
  induction fields generalizing nc with
  | nil => exact ⟨iff_of_true rfl (List.forall_mem_nil _), fun _ => rfl⟩
  | cons field rest ih =>
    have here := infoField_isSome nc field.1 field.2
    rw [List.forall_mem_cons]
    unfold infoFields
    cases taken : infoField nc field.1 field.2 with
    | none =>
      rw [taken] at here
      refine ⟨iff_of_false Bool.false_ne_true fun typed => ?_, fun absurd => by cases absurd⟩
      exact absurd (here.trans typed.1) Bool.false_ne_true
    | some next =>
      rw [taken] at here
      obtain ⟨typed, told⟩ := ih next
      refine ⟨typed.trans (and_iff_right here.symm).symm, fun all => ?_⟩
      have first := infoField_remember taken
      have both := nc.remember_append [field] rest
      rw [List.singleton_append] at both
      rw [both, ← first]
      exact told all

end Fields

/-- An INFO message whose text the JSON grammar reads as an object. -/
structure Announcement (strtod : List UInt8 → Nat × Nat) where
  line : LineText
  fields : List (List UInt8 × JsonValue)
  count : Nat
  reads : Dialect.Reads strtod line.text count (.object fields)

section Announcements

variable {json : JsonEnv}

/-- What a reader makes of an announcement. -/
theorem effectOf_announcement (allocates : ∀ n, json.pool n = true)
    (announcement : Announcement json.strtod) (peer : NatsConnection) :
    effectOf json peer (ServerLine.info announcement.line).message =
      if ∀ field ∈ announcement.fields, wellTyped field = true then
        .goes (peer.remember announcement.fields)
      else .refuses := by
  have read := jsonParse_run allocates announcement.reads
  obtain ⟨typed, told⟩ := infoFields_remember peer announcement.fields
  have kept : informed json peer announcement.line.text =
      if (infoFields peer announcement.fields).2 then some (infoFields peer announcement.fields).1
      else none := by
    unfold informed
    rw [read]
  have nonempty := announcement.line.nonempty
  unfold effectOf
  show (if announcement.line.text = [] then Effect.refuses else _) = _
  rw [if_neg nonempty]
  dsimp only [ServerLine.message]
  rw [kept]
  by_cases all : ∀ field ∈ announcement.fields, wellTyped field = true
  · have taken := typed.mpr all
    rw [if_pos all, if_pos taken, told taken]
  · have untaken : ¬(infoFields peer announcement.fields).2 = true := fun taken =>
      all (typed.mp taken)
    rw [if_neg all, if_neg untaken]

/-- Announcements that fit the block: the conversation goes on exactly when all their fields have
values of their types, and all of them are remembered. -/
theorem converse_announcements (allocates : ∀ n, json.pool n = true) (session : Session)
    (announcements : List (Announcement json.strtod))
    (fits : ∀ announcement ∈ announcements,
      (ServerLine.info announcement.line).bytes.length < session.cap) :
    ((converse json session (announcements.map fun each => .info each.line)).2.isSome ↔
      ∀ announcement ∈ announcements, ∀ field ∈ announcement.fields, wellTyped field = true) ∧
    ∀ last ∈ (converse json session (announcements.map fun each => .info each.line)).2,
      last.peer = session.peer.remember (announcements.flatMap Announcement.fields) := by
  induction announcements generalizing session with
  | nil =>
    refine ⟨iff_of_true rfl (List.forall_mem_nil _), fun last found => ?_⟩
    cases found
    rfl
  | cons announcement rest ih =>
    have here := fits announcement List.mem_cons_self
    have effect := effectOf_announcement allocates announcement session.peer
    rw [List.map_cons, List.forall_mem_cons]
    unfold converse
    rw [if_pos (holds_of_lt here), effect]
    by_cases all : ∀ field ∈ announcement.fields, wellTyped field = true
    · rw [if_pos all, grown_of_lt here]
      obtain ⟨stays, told⟩ := ih ⟨session.cap, session.peer.remember announcement.fields⟩
        fun other inside => fits other (List.mem_cons_of_mem _ inside)
      refine ⟨stays.trans (and_iff_right all).symm, fun last found => ?_⟩
      rw [told last found, List.flatMap_cons, NatsConnection.remember_append]
    · rw [if_neg all]
      refine ⟨iff_of_false Bool.false_ne_true fun both => all both.1, fun last absurd => ?_⟩
      cases absurd

/-- What a server announces is remembered. However a stream of INFO messages is cut, the
connection stays open exactly when every field that the module looks for has a value of its type,
and it then knows the last value that was announced under each name, in any of the messages. -/
theorem announcements_remembered {env : Env} {depth : Nat} {w : World}
    (provides : Provides env json) (allocates : ∀ n, json.pool n = true) (listening : Listening w)
    {announcements : List (Announcement json.strtod)}
    (fits : ∀ announcement ∈ announcements,
      (ServerLine.info announcement.line).bytes.length < min w.readBuf.cap (2 ^ 62))
    {events : List (List (List UInt8))}
    (stream : events.flatten.flatten = wireBytes (announcements.map fun each => .info each.line))
    (receives : Receives env depth w events) :
    let run := receiveEvents env (calls env depth) events w
    (run.1 = .ok true ↔
      ∀ announcement ∈ announcements, ∀ field ∈ announcement.fields, wellTyped field = true) ∧
    (run.1 = .ok true →
      run.2.nc.told = w.nc.told.remember (announcements.flatMap Announcement.fields)) := by
  have small : ∀ line ∈ announcements.map fun each => ServerLine.info each.line,
      line.bytes.length < 2 ^ 62 := by
    intro line inside
    obtain ⟨each, among, rfl⟩ := List.mem_map.mp inside
    exact (lt_min_iff.mp (fits each among)).2
  have words : DeclaresWords events.flatten.flatten := stream ▸ declaresWords_wire small
  have ended := receiveEvents_ended provides listening words receives
  rw [stream] at ended
  obtain ⟨verdict, same, halts⟩ := listening.converses json small
  have held := ended.held same halts
  obtain ⟨stays, told⟩ := converse_announcements allocates ⟨w.readBuf.cap, w.nc.told⟩ announcements
    fun each among => (lt_min_iff.mp (fits each among)).1
  refine ⟨held.stays.trans stays, fun went => ?_⟩
  obtain ⟨last, found⟩ := Option.isSome_iff_exists.mp (held.stays.mp went)
  rw [(held.session last found).2.1]
  exact told last found

/-- An object that `ngx_nats_json_debug_print` prints on a line. -/
def Announcement.printed (strtod : List UInt8 → Nat × Nat)
    (printDouble : Nat → List UInt8) (line : LineText) (fields : List (List UInt8 × JsonValue))
    (printable : Printable (.object fields))
    (prints : Json.debugPrintValue printDouble (.object fields) = .ok line.text) :
    Announcement strtod where
  line := line
  fields := fields
  count := line.text.length
  reads := by
    obtain ⟨text, run, derives⟩ := @value_prints strtod printDouble (.object fields) printable
    cases run.symm.trans prints
    refine ⟨[], line.text, [], ?_, ?_, spaces_nil, derives, fun _ c none => by cases none⟩
    · rw [List.nil_append, List.append_nil]
    · rw [List.length_nil, Nat.zero_add]

/-- An announcement of a version and a port, with a capital in a name. -/
def versioned : Announcement (granting.json 0).strtod :=
  .printed _ (fun _ => [])
    ⟨ascii "\x7b\"version\":\"1\",\"Port\":42\x7d", by decide, by decide, by decide⟩
    [(ascii "version", .string (ascii "1")), (ascii "Port", .integer 42)]
    ⟨⟨by decide, by decide +kernel, by decide⟩, ⟨by decide +kernel, by decide⟩,
      ⟨by decide, by decide +kernel, by decide⟩, ⟨by decide, by decide⟩, trivial⟩
    (by rfl)

/-- An announcement of another port. -/
def moved : Announcement (granting.json 0).strtod :=
  .printed _ (fun _ => []) ⟨ascii "\x7b\"port\":80\x7d", by decide, by decide, by decide⟩
    [(ascii "port", .integer 80)]
    ⟨⟨by decide, by decide +kernel, by decide⟩, ⟨by decide, by decide⟩, trivial⟩ (by rfl)

/-- Two announcements, cut in a name and in a number. -/
theorem announcements_remembered_moved :
    let run := receiveEvents granting (calls granting 1)
      [[ascii "INFO \x7b\"versi", ascii "on\":\"1\",\"Port\":42\x7d\r\nINFO \x7b\"port\":8"],
        [ascii "0\x7d\r\n"]] listened
    (run.1 = .ok true ↔
      ∀ announcement ∈ [versioned, moved], ∀ field ∈ announcement.fields, wellTyped field = true) ∧
    (run.1 = .ok true →
      run.2.nc.told =
        listened.nc.told.remember ([versioned, moved].flatMap Announcement.fields)) := by
  have provides : Provides granting (granting.json 0) :=
    ⟨fun _ _ => rfl, fun _ => rfl, fun _ => rfl⟩
  have receives : Receives granting 1 listened
      [[ascii "INFO \x7b\"versi", ascii "on\":\"1\",\"Port\":42\x7d\r\nINFO \x7b\"port\":8"],
        [ascii "0\x7d\r\n"]] := by
    apply receives_of_run
    all_goals decide +kernel
  have fits : ∀ announcement ∈ [versioned, moved],
      (ServerLine.info announcement.line).bytes.length < min listened.readBuf.cap (2 ^ 62) := by
    decide +kernel
  exact announcements_remembered provides (fun _ => rfl) listening_listened fits (by decide +kernel)
    receives

end Announcements

end NgxNats
