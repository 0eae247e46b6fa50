import SourceGrade.Digest.Sha256
import SourceGrade.Json.Writer
import SourceGrade.Setting.Json
import SourceGrade.Text.CodePoint
import SourceGrade.Thresholds.Fields
/-!
# A memory of reports

Reports are kept by the text, the language and the thresholds they belong to. Entries expire after a
time to live, and storing an entry drops those that have expired; with a time of zero an entry lasts
until the next one is stored, but is never found. A disabled memory keeps nothing.
-/

namespace SourceGrade

/-- The first digits of a digest, as many as name a configuration. -/
def shortDigest (t : Text) : Text := (Sha256.hexDigest t).take 16

/-- A configuration in writing, its names sorted. -/
def configurationLine (config : Json) : Text := Json.line (Json.sortNames config)

def configurationHash (config : Json) : Text := shortDigest (configurationLine config)

/-- The thresholds as a JSON object. -/
def Thresholds.toJson (t : Thresholds Setting Amount) : Json :=
  .object (t.toMembers Setting.toJson Amount.toJson)

/-- What a report belongs to. -/
structure ReportKey where
  text : CodePoints
  language : Text
  /-- The hash of the thresholds. -/
  configuration : Text
  deriving DecidableEq, Repr

namespace ReportKey

/-- The parts of a key one after another, with null characters between them. -/
def joined (k : ReportKey) : CodePoints :=
  .ofText (k.language ++ '\x00' :: (k.configuration ++ ['\x00'])) ++ k.text

/-- The digest under which a report is stored. Code points that have no encoding are digested as
question marks. -/
def digest (k : ReportKey) : Text := Sha256.hexDigest k.joined.encodable

end ReportKey

/-- How long entries of a memory last. -/
inductive Lifetime where
  /-- They have expired before they are stored. -/
  | past
  /-- They expire when they are stored. -/
  | momentary
  | lasting
  deriving DecidableEq, Repr

/-- The lifetime of a number of hours. Entries whose expiry is no number never expire. -/
def Lifetime.ofHours (hours : Setting) : Lifetime :=
  match hours.amount? with
  | none => past
  | some a =>
    if Scalar.ltInt a 0 then past else if Scalar.eqInt a 0 then momentary else lasting

/-- A memory that maps keys to values for a time, or is disabled. -/
structure ExpiringCache (κ β : Type) where
  enabled : Bool
  lifetime : Lifetime
  entries : List (κ × β)

namespace ExpiringCache

variable {κ β : Type} [BEq κ]

def create (enabled : Bool) (lifetime : Lifetime) : ExpiringCache κ β := ⟨enabled, lifetime, []⟩

/-- The value of a key, at once after it was stored. -/
def find? (c : ExpiringCache κ β) (key : κ) : Option β :=
  if c.enabled && c.lifetime == .lasting then c.entries.lookup key else none

/-- Sets the value of a key among some entries. -/
def replace (key : κ) (value : β) : List (κ × β) → List (κ × β)
  | [] => [(key, value)]
  | (k, v) :: rest => if k == key then (key, value) :: rest else (k, v) :: replace key value rest

/-- Stores a value; entries that have expired are dropped. -/
def insert (c : ExpiringCache κ β) (key : κ) (value : β) : ExpiringCache κ β :=
  if c.enabled then
    { c with
      entries :=
        match c.lifetime with
        | .lasting => replace key value c.entries
        | .momentary => [(key, value)]
        | .past => [] }
  else c

def clear (c : ExpiringCache κ β) : ExpiringCache κ β :=
  if c.enabled then { c with entries := [] } else c

/-- The number of entries; a disabled memory has no such number. -/
def size? (c : ExpiringCache κ β) : Option Nat :=
  if c.enabled then some c.entries.length else none

end ExpiringCache

end SourceGrade
