import Polyfast.Logging.Coverage
import Polyfast.Logging.Service

/-!
# What a log line shows of credentials

Two calls of `log_event` are alike if they differ only in the values stored under credential names in the
payload, at any depth, or written as pairs of these names in the message. They should emit the same line, up
to the kept four characters of a value. The filter never looks at the payload, and the pattern knows only
some of the names.

* `Data.Alike`, `Piece.Alike`, `Call.Alike`: equal up to credential values in a given relation;
* `Fields.refill`, `Call.refill`: a call with other credential values;
* `Call.Protected`: no credential value in the payload, and every pair of the message covered;
* `noninterference_iff`: the calls of a shape emit the same lines iff the shape is protected.
-/

namespace Polyfast.Logging

/-- The fields of `Credentials`. -/
def credentialNames : List String :=
  ["api_key", "api_secret", "api_passphrase", "private_key", "funder_address", "relayer_key"]

/-- The values leave the same behind when they are masked: four characters, or nothing. -/
def SameKept (d d' : Data) : Prop := maskValue d = maskValue d'

/-! ### Payloads -/

mutual

/-- Equal up to the values under credential names, which `R` relates. -/
inductive Data.Alike (R : Data → Data → Prop) : Data → Data → Prop
  | null : Data.Alike R .null .null
  | bool (b : Bool) : Data.Alike R (.bool b) (.bool b)
  | num (text : String) : Data.Alike R (.num text) (.num text)
  | str (s : String) : Data.Alike R (.str s) (.str s)
  | other (text : String) : Data.Alike R (.other text) (.other text)
  | list {items items' : Items} (h : Items.Alike R items items') : Data.Alike R (.list items) (.list items')
  | dict {fields fields' : Fields} (h : Fields.Alike R fields fields') :
      Data.Alike R (.dict fields) (.dict fields')

inductive Items.Alike (R : Data → Data → Prop) : Items → Items → Prop
  | nil : Items.Alike R .nil .nil
  | cons {d d' : Data} {rest rest' : Items} (hd : Data.Alike R d d') (hrest : Items.Alike R rest rest') :
      Items.Alike R (.cons d rest) (.cons d' rest')

inductive Fields.Alike (R : Data → Data → Prop) : Fields → Fields → Prop
  | nil : Fields.Alike R .nil .nil
  | credential {key : String} {d d' : Data} {rest rest' : Fields} (hkey : key ∈ credentialNames) (hd : R d d')
      (hrest : Fields.Alike R rest rest') : Fields.Alike R (.cons key d rest) (.cons key d' rest')
  | plain {key : String} {d d' : Data} {rest rest' : Fields} (hkey : key ∉ credentialNames)
      (hd : Data.Alike R d d') (hrest : Fields.Alike R rest rest') :
      Fields.Alike R (.cons key d rest) (.cons key d' rest')

end

mutual

/-- A value is stored under a credential name, at some depth. -/
def Data.carries : Data → Bool
  | .list items => items.carries
  | .dict fields => fields.carries
  | _ => false

def Items.carries : Items → Bool
  | .nil => false
  | .cons d rest => d.carries || rest.carries

def Fields.carries : Fields → Bool
  | .nil => false
  | .cons key d rest => decide (key ∈ credentialNames) || d.carries || rest.carries

end

mutual

/-- The payload with `v` under every credential name. -/
def Data.refill (v : Data) : Data → Data
  | .list items => .list (Items.refill v items)
  | .dict fields => .dict (Fields.refill v fields)
  | d => d

def Items.refill (v : Data) : Items → Items
  | .nil => .nil
  | .cons d rest => .cons (Data.refill v d) (Items.refill v rest)

def Fields.refill (v : Data) : Fields → Fields
  | .nil => .nil
  | .cons key d rest => .cons key (if key ∈ credentialNames then v else Data.refill v d) (Fields.refill v rest)

end

section Payload

variable {R : Data → Data → Prop}

mutual

theorem Data.alike_refill {v : Data} (hv : ∀ d, R d v) : ∀ d : Data, Data.Alike R d (Data.refill v d)
  | .null => .null
  | .bool b => .bool b
  | .num text => .num text
  | .str s => .str s
  | .other text => .other text
  | .list items => .list (Items.alike_refill hv items)
  | .dict fields => .dict (Fields.alike_refill hv fields)

theorem Items.alike_refill {v : Data} (hv : ∀ d, R d v) : ∀ items : Items, Items.Alike R items (Items.refill v items)
  | .nil => .nil
  | .cons d rest => .cons (Data.alike_refill hv d) (Items.alike_refill hv rest)

theorem Fields.alike_refill {v : Data} (hv : ∀ d, R d v) :
    ∀ fields : Fields, Fields.Alike R fields (Fields.refill v fields)
  | .nil => .nil
  | .cons key d rest => by
    have hrest := Fields.alike_refill hv rest
    by_cases hkey : key ∈ credentialNames
    · simp only [Fields.refill, if_pos hkey]
      exact .credential hkey (hv d) hrest
    · simp only [Fields.refill, if_neg hkey]
      exact .plain hkey (Data.alike_refill hv d) hrest

end

mutual

theorem Data.refill_alike {v v' : Data} (hv : R v v') : ∀ d : Data, Data.Alike R (Data.refill v d) (Data.refill v' d)
  | .null => .null
  | .bool b => .bool b
  | .num text => .num text
  | .str s => .str s
  | .other text => .other text
  | .list items => .list (Items.refill_alike hv items)
  | .dict fields => .dict (Fields.refill_alike hv fields)

theorem Items.refill_alike {v v' : Data} (hv : R v v') :
    ∀ items : Items, Items.Alike R (Items.refill v items) (Items.refill v' items)
  | .nil => .nil
  | .cons d rest => .cons (Data.refill_alike hv d) (Items.refill_alike hv rest)

theorem Fields.refill_alike {v v' : Data} (hv : R v v') :
    ∀ fields : Fields, Fields.Alike R (Fields.refill v fields) (Fields.refill v' fields)
  | .nil => .nil
  | .cons key d rest => by
    have hrest := Fields.refill_alike hv rest
    by_cases hkey : key ∈ credentialNames
    · simp only [Fields.refill, if_pos hkey]
      exact .credential hkey hv hrest
    · simp only [Fields.refill, if_neg hkey]
      exact .plain hkey (Data.refill_alike hv d) hrest

end

mutual

/-- Without credential names there is nothing to differ in. -/
theorem Data.eq_of_alike : ∀ {d d' : Data}, Data.Alike R d d' → d.carries = false → d' = d
  | _, _, .null, _ => rfl
  | _, _, .bool _, _ => rfl
  | _, _, .num _, _ => rfl
  | _, _, .str _, _ => rfl
  | _, _, .other _, _ => rfl
  | _, _, .list h, hc => congrArg Data.list (Items.eq_of_alike h hc)
  | _, _, .dict h, hc => congrArg Data.dict (Fields.eq_of_alike h hc)

theorem Items.eq_of_alike : ∀ {items items' : Items}, Items.Alike R items items' → items.carries = false →
    items' = items
  | _, _, .nil, _ => rfl
  | _, _, .cons hd hrest, hc => by
    obtain ⟨h₁, h₂⟩ := Bool.or_eq_false_iff.mp hc
    rw [Data.eq_of_alike hd h₁, Items.eq_of_alike hrest h₂]

theorem Fields.eq_of_alike : ∀ {fields fields' : Fields}, Fields.Alike R fields fields' → fields.carries = false →
    fields' = fields
  | _, _, .nil, _ => rfl
  | _, _, .credential hkey _ _, hc => by simp [Fields.carries, hkey] at hc
  | _, _, .plain _ hd hrest, hc => by
    obtain ⟨h₁, h₂⟩ := Bool.or_eq_false_iff.mp hc
    rw [Data.eq_of_alike hd (Bool.or_eq_false_iff.mp h₁).2, Fields.eq_of_alike hrest h₂]

end

mutual

/-- A value under a credential name is written out in full. -/
theorem Data.length_le_refill (v : Data) : ∀ d : Data, d.carries = true →
    v.dumps.length ≤ (Data.refill v d).dumps.length
  | .list items, hc => by
    obtain ⟨t, ht, hle⟩ := Items.length_le_refill v items hc
    exact hle.trans (length_le_list ht)
  | .dict fields, hc => by
    obtain ⟨t, ht, hle⟩ := Fields.length_le_refill v fields hc
    exact hle.trans (length_le_dict ht)

theorem Items.length_le_refill (v : Data) : ∀ items : Items, items.carries = true →
    ∃ t ∈ (Items.refill v items).dumps, v.dumps.length ≤ t.length
  | .cons d rest, hc => by
    rcases Bool.or_eq_true_iff.mp hc with h | h
    · exact ⟨_, List.mem_cons_self, Data.length_le_refill v d h⟩
    · obtain ⟨t, ht, hle⟩ := Items.length_le_refill v rest h
      exact ⟨t, List.mem_cons_of_mem _ ht, hle⟩

theorem Fields.length_le_refill (v : Data) : ∀ fields : Fields, fields.carries = true →
    ∃ t ∈ (Fields.refill v fields).dumps, v.dumps.length ≤ t.length
  | .cons key d rest, hc => by
    by_cases hkey : key ∈ credentialNames
    · refine ⟨_, List.mem_cons_self, ?_⟩
      simp only [if_pos hkey, List.length_append]
      omega
    · rcases Bool.or_eq_true_iff.mp hc with h | h
      · refine ⟨_, List.mem_cons_self, ?_⟩
        have := Data.length_le_refill v d (by simpa [hkey] using h)
        simp only [if_neg hkey, List.length_append]
        omega
      · obtain ⟨t, ht, hle⟩ := Fields.length_le_refill v rest h
        exact ⟨t, List.mem_cons_of_mem _ ht, hle⟩

end

end Payload

/-! ### Messages -/

/-- A value that stands in a message as one word. -/
structure Word where
  text : String
  isWord : IsWord text.toList

/-- A part of a message. -/
inductive Piece
  | text (s : String)
  | pair (name : String) (hname : name ∈ credentialNames) (value : Word)

/-- A pair is written with a colon and a blank. -/
def Piece.chars : Piece → List Char
  | .text s => s.toList
  | .pair name _ value => name.toList ++ ':' :: ' ' :: value.text.toList

/-- The part with its value left open. -/
def Piece.tokens : Piece → Tokens
  | .text s => s.toList.map some
  | .pair name _ _ => name.toList.map some ++ [some ':', some ' ', none]

/-- Equal up to the value of a pair, which `R` relates. -/
inductive Piece.Alike (R : Data → Data → Prop) : Piece → Piece → Prop
  | text (s : String) : Piece.Alike R (.text s) (.text s)
  | pair (name : String) (hname : name ∈ credentialNames) {value value' : Word}
      (h : R (.str value.text) (.str value'.text)) : Piece.Alike R (.pair name hname value) (.pair name hname value')

def Piece.refill (w : Word) : Piece → Piece
  | .text s => .text s
  | .pair name hname _ => .pair name hname w

def chars (message : List Piece) : List Char := message.flatMap Piece.chars

def tokens (message : List Piece) : Tokens := message.flatMap Piece.tokens

theorem full_tokens (message : List Piece) : Full (tokens message) := by
  induction message with
  | nil => exact .text []
  | cons a message ih =>
    cases a with
    | text s => exact ih.prepend s.toList
    | pair name hname value =>
      have h := Full.value name.toList ih
      simpa [tokens, Piece.tokens] using h

section Message

variable {R : Data → Data → Prop} {message message' : List Piece}

theorem tokens_alike (h : List.Forall₂ (Piece.Alike R) message message') : tokens message' = tokens message := by
  induction h with
  | nil => rfl
  | cons ha _ ih =>
    cases ha with
    | text s => exact congrArg (s.toList.map some ++ ·) ih
    | pair name => exact congrArg (name.toList.map some ++ [some ':', some ' ', none] ++ ·) ih

/-- A message is its tokens with its values filled in. -/
theorem fills_alike {W : List Char → Prop} (hW : ∀ d (value : Word), R d (.str value.text) → W value.text.toList)
    (h : List.Forall₂ (Piece.Alike R) message message') : Fills W (tokens message) (chars message') := by
  induction h with
  | nil => exact .nil
  | cons ha _ ih =>
    cases ha with
    | text s => exact fills_text.mpr ⟨_, rfl, ih⟩
    | pair name hname h =>
      have hvalue := Fills.char ':' (.char ' ' (.value _ (hW _ _ h) ih))
      have hfill := (fills_text (p := name.toList)).mpr ⟨_, rfl, hvalue⟩
      simpa [tokens, chars, Piece.tokens, Piece.chars] using hfill

theorem alike_refill_message {w : Word} (hw : ∀ d, R d (.str w.text)) (message : List Piece) :
    List.Forall₂ (Piece.Alike R) message (message.map (Piece.refill w)) := by
  induction message with
  | nil => exact .nil
  | cons a message ih =>
    cases a with
    | text s => exact .cons (.text s) ih
    | pair name hname value => exact .cons (.pair name hname (hw _)) ih

theorem refill_alike_message {w w' : Word} (hw : R (.str w.text) (.str w'.text)) (message : List Piece) :
    List.Forall₂ (Piece.Alike R) (message.map (Piece.refill w)) (message.map (Piece.refill w')) := by
  induction message with
  | nil => exact .nil
  | cons a message ih =>
    cases a with
    | text s => exact .cons (.text s) ih
    | pair name hname value => exact .cons (.pair name hname hw) ih

end Message

/-! ### Calls -/

/-- A call of `log_event`, with its message in parts. -/
structure Call where
  logger : String
  level : String
  message : List Piece
  entityType : String := ""
  entityId : String := ""
  payload : Option Fields := none

def Call.event (c : Call) : LogEvent where
  logger := c.logger
  level := c.level
  message := String.ofList (chars c.message)
  entityType := c.entityType
  entityId := c.entityId
  payload := c.payload

/-- Identical except for credential values, which `R` relates. -/
structure Call.Alike (R : Data → Data → Prop) (c c' : Call) : Prop where
  logger : c'.logger = c.logger
  level : c'.level = c.level
  entityType : c'.entityType = c.entityType
  entityId : c'.entityId = c.entityId
  message : List.Forall₂ (Piece.Alike R) c.message c'.message
  payload : Option.Rel (Fields.Alike R) c.payload c'.payload

/-- **Noninterference** of the calls of one shape: if the kept characters agree, the lines do. -/
def Noninterfering (percent : String → LogArgs → String) (c₀ : Call) : Prop :=
  ∀ now c c', Call.Alike (fun _ _ => True) c₀ c → Call.Alike SameKept c c' →
    line percent c.event now = line percent c'.event now

/-- No value is stored under a credential name, and the pair pattern takes every value of the message. -/
structure Call.Protected (c : Call) : Prop where
  payload : ∀ fields ∈ c.payload, fields.carries = false
  message : Covered (tokens c.message)

/-- The call with `w` for every credential value. -/
def Call.refill (w : Word) (c : Call) : Call :=
  { c with
    message := c.message.map (Piece.refill w)
    payload := c.payload.map (Fields.refill (.str w.text)) }

section Calls

variable {percent : String → LogArgs → String} {R : Data → Data → Prop} {c c' c₀ : Call} {now : String}

theorem Call.alike_refill {w : Word} (hw : ∀ d, R d (.str w.text)) (c : Call) : Call.Alike R c (c.refill w) where
  logger := rfl
  level := rfl
  entityType := rfl
  entityId := rfl
  message := alike_refill_message hw c.message
  payload := by
    unfold Call.refill
    cases c.payload with
    | none => exact .none
    | some fields => exact .some (Fields.alike_refill hw fields)

theorem Call.refill_alike {w w' : Word} (hw : R (.str w.text) (.str w'.text)) (c : Call) :
    Call.Alike R (c.refill w) (c.refill w') where
  logger := rfl
  level := rfl
  entityType := rfl
  entityId := rfl
  message := refill_alike_message hw c.message
  payload := by
    unfold Call.refill
    cases c.payload with
    | none => exact .none
    | some fields => exact .some (Fields.refill_alike hw fields)

theorem payload_eq {p p' : Option Fields} (h : Option.Rel (Fields.Alike R) p p')
    (hp : ∀ fields ∈ p, fields.carries = false) : p' = p := by
  cases h with
  | none => rfl
  | some h => exact congrArg some (Fields.eq_of_alike h (hp _ rfl))

/-- The protection is one of the shape. -/
theorem Call.Protected.alike (h : c.Protected) (ha : Call.Alike R c c') : c'.Protected where
  payload := by
    rw [payload_eq ha.payload h.payload]
    exact h.payload
  message := by
    rw [tokens_alike ha.message]
    exact h.message

theorem maskString_chars {s s' : List Char} (h : maskChars s = maskChars s') :
    maskString (String.ofList s) = maskString (String.ofList s') := by
  simp only [maskString, String.toList_ofList, h]

/-- A protected message is masked to one text. -/
theorem Call.Protected.maskString_eq (h : c.Protected) (ha : Call.Alike R c c') :
    maskString c'.event.message = maskString (String.ofList (canon (tokens c.message))) :=
  maskString_chars <| maskChars_covered (full_tokens c.message) (W := IsWord) (fun _ hw => hw)
    (fills_alike (fun _ value _ => value.isWord) ha.message) h.message

/-- A line depends on the message only through its masked text. -/
theorem line_congr {e e' : LogEvent} (hlogger : e'.logger = e.logger) (hlevel : e'.level = e.level)
    (htype : e'.entityType = e.entityType) (hid : e'.entityId = e.entityId)
    (hmessage : maskString e'.message = maskString e.message) (hpayload : e'.payload = e.payload) :
    line percent e' now = line percent e now := by
  have hmasked : (logEvent e').masked = (logEvent e).masked := by
    simp only [logEvent, LogRecord.masked, hlogger, hlevel, htype, hid, hmessage, hpayload]
  exact congrArg (LogRecord.format percent · now) hmasked

/-- **A protected shape shows nothing** of its credential values. -/
theorem Call.Protected.line_eq {R' : Data → Data → Prop} (h : c₀.Protected) (hc : Call.Alike R c₀ c)
    (ha : Call.Alike R' c c') : line percent c'.event now = line percent c.event now := by
  have hprotected := h.alike hc
  have hmessage : maskString c'.event.message = maskString c.event.message := by
    rw [hprotected.maskString_eq ha, h.maskString_eq hc, tokens_alike hc.message]
  exact line_congr ha.logger ha.level ha.entityType ha.entityId hmessage
    (payload_eq ha.payload hprotected.payload)

/-! ### What an unprotected shape shows -/

/-- A word of `#`. -/
def hashWord (k : ℕ) : Word where
  text := String.ofList (List.replicate (k + 1) '#')
  isWord := by
    rw [String.toList_ofList]
    exact Hashes.isWord _ rfl

theorem sameKept_hashWord {j k : ℕ} (hj : 4 ≤ j) (hk : 4 ≤ k) :
    SameKept (.str (hashWord j).text) (.str (hashWord k).text) := by
  have h : ∀ n, 4 ≤ n → maskValue (.str (hashWord n).text) = String.ofList (List.replicate 4 '#' ++ stars) := by
    intro n hn
    have hlong : 4 < (hashWord n).text.length := by
      rw [hashWord, String.length_ofList, List.length_replicate]
      omega
    rw [maskValue, if_pos hlong, hashWord, String.toList_ofList, List.take_replicate, Nat.min_eq_left (by omega)]
  exact (h j hj).trans (h k hk).symm

/-- The line holds the masked message. -/
theorem length_le_line_message (percent : String → LogArgs → String) (e : LogEvent) (now : String) :
    (maskString e.message).length ≤ (line percent e now).length := by
  have hentry : ∀ rest : Fields, dumpsChars "message".toList ++ [':', ' '] ++ dumpsChars (maskString e.message).toList ∈
      ((logEvent e).masked.entry percent now rest).dumps := by
    intro rest
    simp [LogRecord.entry, Fields.dumps, Data.dumps, logEvent, LogRecord.masked, LogRecord.getMessage, LogArgs.truthy]
  obtain ⟨rest, hrest⟩ : ∃ rest, line percent e now =
      String.ofList (Data.dict ((logEvent e).masked.entry percent now rest)).dumps := ⟨_, rfl⟩
  have hline := length_le_dict (hentry rest)
  have htext := length_le_dumpsChars (maskString e.message).toList
  rw [List.length_append] at hline
  rw [String.length_toList] at htext
  rw [hrest, String.length_ofList]
  exact (htext.trans (Nat.le_add_left _ _)).trans hline

/-- The line holds the payload as it is. -/
theorem length_le_line_payload (percent : String → LogArgs → String) {e : LogEvent} {key : String} {d : Data}
    {rest : Fields} (now : String) (h : e.payload = some (.cons key d rest)) :
    (Data.dict (.cons key d rest)).dumps.length ≤ (line percent e now).length := by
  have hentry : dumpsChars "payload".toList ++ [':', ' '] ++ (Data.dict (.cons key d rest)).dumps ∈
      ((logEvent e).masked.entry percent now (.cons "payload" (.dict (.cons key d rest)) .nil)).dumps := by
    simp [LogRecord.entry, Fields.dumps]
  have hline := length_le_dict hentry
  rw [List.length_append] at hline
  have hformat : (line percent e now).length = (Data.dict ((logEvent e).masked.entry percent now
      (.cons "payload" (.dict (.cons key d rest)) .nil))).dumps.length := by
    rw [line, LogRecord.format, String.length_ofList]
    simp only [logEvent, LogRecord.masked, h]
  rw [hformat]
  exact (Nat.le_add_left _ _).trans hline

/-- **An unprotected shape shows its values**, where they are words of `#`. -/
theorem Call.leaks (h : ¬c₀.Protected) (k : ℕ) : k ≤ (line percent (c₀.refill (hashWord k)).event now).length := by
  by_cases hmessage : Covered (tokens c₀.message)
  · have hpayload : ∃ fields ∈ c₀.payload, fields.carries = true := by
      by_contra hnone
      push Not at hnone
      exact h ⟨fun fields hfields => Bool.eq_false_iff.mpr (hnone fields hfields), hmessage⟩
    obtain ⟨fields, hfields, hcarries⟩ := hpayload
    cases fields with
    | nil => cases hcarries
    | cons key d rest =>
      have hevent : (c₀.refill (hashWord k)).event.payload =
          some (Fields.refill (.str (hashWord k).text) (.cons key d rest)) := by
        rw [Call.event, Call.refill, Option.mem_def.mp hfields, Option.map_some]
      have hline := length_le_line_payload percent now hevent
      have hdict := Data.length_le_refill (.str (hashWord k).text) (.dict (.cons key d rest)) hcarries
      have hword := length_le_dumpsChars (hashWord k).text.toList
      have hlen : (hashWord k).text.toList.length = k + 1 := by simp [hashWord]
      have hle : (Data.str (hashWord k).text).dumps.length ≤ _ := hdict.trans hline
      exact (by omega : k ≤ (hashWord k).text.toList.length).trans (hword.trans hle)
  · have hfill : Fills (Hashes k) (tokens c₀.message) (chars (c₀.refill (hashWord k)).message) :=
      fills_alike (R := fun _ d => d = .str (hashWord k).text)
        (fun _ value hvalue => by
          rw [Data.str.inj hvalue, hashWord, String.toList_ofList]
          rfl)
        (alike_refill_message (R := fun _ d => d = .str (hashWord k).text) (fun _ => rfl) c₀.message)
    have hmasked := uncovered_leaks (full_tokens c₀.message) hfill hmessage
    have hline := length_le_line_message percent (c₀.refill (hashWord k)).event now
    rw [Call.event, maskString, String.length_ofList, String.toList_ofList] at hline
    exact hmasked.trans hline

end Calls

/-- **Noninterference, exactly.** The calls of a shape emit the same lines, up to the kept characters of the
credential values, iff its payload stores no value under a credential name, at any depth, and the pair pattern
takes every pair of its message. -/
theorem noninterference_iff (percent : String → LogArgs → String) (c₀ : Call) :
    Noninterfering percent c₀ ↔ c₀.Protected := by
  constructor
  · intro h
    by_contra hnot
    -- words of any length keep the same four characters
    let shown := (line percent (c₀.refill (hashWord 4)).event "").length
    have hline := h "" _ _ (c₀.alike_refill (w := hashWord 4) fun _ => trivial)
      (Call.refill_alike (sameKept_hashWord le_rfl (by omega : 4 ≤ shown + 5)) c₀)
    have hle : shown + 5 ≤ shown := (Call.leaks hnot (shown + 5)).trans (congrArg String.length hline).ge
    omega
  · intro h now c c' hc hc'
    exact (h.line_eq hc hc').symm

/-- A pair on its own is covered for every name but one. -/
example : credentialNames.filter (fun name => ¬Covered (name.toList.map some ++ [some ':', some ' ', none])) =
    ["funder_address"] := by decide +kernel

/-! ### The payload is not masked -/

/-- A call with an API key in its payload. -/
def keyCall (value : String) : Call where
  logger := "polyfast.auth"
  level := "INFO"
  message := [.text "credentials"]
  payload := some (.cons "api_key" (.str value) .nil)

/-- Keys that differ after their fourth character are written out. -/
theorem keyCall_shown : ¬ ∀ (percent : String → LogArgs → String) (now : String) (c c' : Call),
    Call.Alike SameKept c c' → line percent c.event now = line percent c'.event now := by
  intro h
  have hkey : "api_key" ∈ credentialNames := by decide
  have hkept : SameKept (.str "abcd1") (.str "abcd2") := by
    unfold SameKept
    decide +kernel
  have halike : Call.Alike SameKept (keyCall "abcd1") (keyCall "abcd2") :=
    ⟨rfl, rfl, rfl, rfl, .cons (.text _) .nil, .some (.credential hkey hkept .nil)⟩
  have hline : String.ofList _ = String.ofList _ := h (fun msg _ => msg) "" _ _ halike
  exact absurd (String.ofList_injective hline) (by decide +kernel)

end Polyfast.Logging
