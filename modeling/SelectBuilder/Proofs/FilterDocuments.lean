import Mathlib.Data.List.Nodup
import SelectBuilder.Proofs.Compilation

namespace SelectBuilder

/-!
# The documents of filters

A document describes a filter when it is an object of operands.  It is then read
without loss: the filter, written as a document again, is the document that was
read.  Any other document has places where no filter could have what stands there,
and the error is about the first of them.
-/

/-! ## Documents and what they describe -/

namespace Json

/-- One more than the greatest integer of 64 bits with a sign. -/
def signBound : Int := Int.pow 2 63

theorem signBound_eq : signBound = 9223372036854775808 := rfl

/-- What can be read from a text: integers have 64 bits, with or without a sign, other
numbers are finite, and no object has two members of one name. -/
inductive IsDocument : Json -> Prop where
  | null : IsDocument .null
  | bool (value : Bool) : IsDocument (.bool value)
  | integer {value : Int} (least : -signBound ≤ value) (greatest : value < 2 * signBound) :
      IsDocument (.integer value)
  | float {value : Double} (isFinite : value.isFinite = true) : IsDocument (.float value)
  | text (value : String) : IsDocument (.text value)
  | array {items : List Json} (inside : forall item, item ∈ items -> IsDocument item) :
      IsDocument (.array items)
  | object {members : List (String × Json)} (distinct : (members.map Prod.fst).Nodup)
      (inside : forall member, member ∈ members -> IsDocument member.2) :
      IsDocument (.object members)

/-- A scalar.  Its integers have a sign bit among the 64. -/
inductive DescribesValue : Json -> Prop where
  | bool (value : Bool) : DescribesValue (.bool value)
  | integer {value : Int} (least : -signBound ≤ value) (greatest : value < signBound) :
      DescribesValue (.integer value)
  | float {value : Double} (isFinite : value.isFinite = true) : DescribesValue (.float value)
  | text (value : String) : DescribesValue (.text value)

/-- `null`, a scalar or an array of scalars. -/
inductive DescribesTerm : Json -> Prop where
  | null : DescribesTerm .null
  | scalar {document : Json} (value : document.DescribesValue) : DescribesTerm document
  | list {items : List Json} (values : forall item, item ∈ items -> item.DescribesValue) :
      DescribesTerm (.array items)

/-- A term, or an object of terms. -/
inductive DescribesOperand : Json -> Prop where
  | term {document : Json} (term : document.DescribesTerm) : DescribesOperand document
  | operators {members : List (String × Json)}
      (terms : forall member, member ∈ members -> member.2.DescribesTerm) :
      DescribesOperand (.object members)

/-- An object of operands. -/
inductive DescribesFilter : Json -> Prop where
  | entries {members : List (String × Json)}
      (operands : forall member, member ∈ members -> member.2.DescribesOperand) :
      DescribesFilter (.object members)

/-! ## The faults of a document, in its order -/

def valueFaults : Json -> List ValueFault
  | .bool _ | .float _ | .text _ => []
  | .integer value => if -signBound ≤ value ∧ value < signBound then [] else [.outOfRange value]
  | other => [.notAScalar other.compact]

def termFaults : Json -> List ValueFault
  | .null => []
  | .array items => items.flatMap valueFaults
  | other => other.valueFaults

def operandFaults : Json -> List ValueFault
  | .object members => members.flatMap fun member => member.2.termFaults
  | other => other.termFaults

/-- What cannot be part of a filter where it stands, in the order of the document. -/
def filterFaults : Json -> List ValueFault
  | .object members => members.flatMap fun member => member.2.operandFaults
  | _ => [.notAnObject]

theorem valueFaults_eq_nil_iff {document : Json} (isDocument : document.IsDocument) :
    document.valueFaults = [] ↔ document.DescribesValue := by
  constructor
  · intro faultless
    cases isDocument with
    | bool value => exact .bool value
    | float isFinite => exact .float isFinite
    | text value => exact .text value
    | @integer value _ _ =>
        by_cases fits : -signBound ≤ value ∧ value < signBound
        · exact .integer fits.1 fits.2
        · rw [valueFaults, if_neg fits] at faultless
          cases faultless
    | null => cases faultless
    | array _ => cases faultless
    | object _ _ => cases faultless
  · intro describes
    cases describes with
    | integer least greatest => exact if_pos ⟨least, greatest⟩
    | _ => rfl

theorem termFaults_eq_nil_iff {document : Json} (isDocument : document.IsDocument) :
    document.termFaults = [] ↔ document.DescribesTerm := by
  constructor
  · intro faultless
    cases document with
    | null => exact .null
    | array items =>
        cases isDocument with
        | array inside =>
            rw [termFaults, List.flatMap_eq_nil_iff] at faultless
            exact .list fun item member =>
              (valueFaults_eq_nil_iff (inside item member)).mp (faultless item member)
    | _ => exact .scalar ((valueFaults_eq_nil_iff isDocument).mp faultless)
  · intro describes
    cases describes with
    | null => rfl
    | scalar value =>
        have faultless := (valueFaults_eq_nil_iff isDocument).mpr value
        cases value <;> exact faultless
    | list values =>
        cases isDocument with
        | array inside =>
            exact List.flatMap_eq_nil_iff.mpr fun item member =>
              (valueFaults_eq_nil_iff (inside item member)).mpr (values item member)

theorem operandFaults_eq_nil_iff {document : Json} (isDocument : document.IsDocument) :
    document.operandFaults = [] ↔ document.DescribesOperand := by
  constructor
  · intro faultless
    cases document with
    | object members =>
        cases isDocument with
        | object _ inside =>
            rw [operandFaults, List.flatMap_eq_nil_iff] at faultless
            exact .operators fun member among =>
              (termFaults_eq_nil_iff (inside member among)).mp (faultless member among)
    | _ => exact .term ((termFaults_eq_nil_iff isDocument).mp faultless)
  · intro describes
    cases describes with
    | term term =>
        have faultless := (termFaults_eq_nil_iff isDocument).mpr term
        rcases term with _ | ⟨_ | _ | _ | _⟩ | _ <;> exact faultless
    | operators terms =>
        cases isDocument with
        | object _ inside =>
            exact List.flatMap_eq_nil_iff.mpr fun member among =>
              (termFaults_eq_nil_iff (inside member among)).mpr (terms member among)

theorem filterFaults_eq_nil_iff {document : Json} (isDocument : document.IsDocument) :
    document.filterFaults = [] ↔ document.DescribesFilter := by
  constructor
  · intro faultless
    cases isDocument with
    | object _ inside =>
        rw [filterFaults, List.flatMap_eq_nil_iff] at faultless
        exact .entries fun member among =>
          (operandFaults_eq_nil_iff (inside member among)).mp (faultless member among)
    | _ => cases faultless
  · rintro ⟨operands⟩
    cases isDocument with
    | object _ inside =>
        exact List.flatMap_eq_nil_iff.mpr fun member among =>
          (operandFaults_eq_nil_iff (inside member among)).mpr (operands member among)

end Json

/-! ## Filters as documents -/

/-- A value that a document can say apart from all others: not an identifier or an
instant, which are texts there, and not an infinite number. -/
inductive Value.IsPlain : Value -> Prop where
  | bool (value : Bool) : IsPlain (.bool value)
  | integer (value : Int64) : IsPlain (.integer value)
  | float {value : Double} (isFinite : value.isFinite = true) : IsPlain (.float value)
  | text (value : String) : IsPlain (.text value)

inductive Term.IsPlain : Term -> Prop where
  | null : IsPlain .null
  | scalar {value : Value} (plain : value.IsPlain) : IsPlain (.scalar value)
  | list {values : List Value} (plain : forall value, value ∈ values -> value.IsPlain) :
      IsPlain (.list values)

inductive Operand.IsPlain : Operand -> Prop where
  | term {term : Term} (plain : term.IsPlain) : IsPlain (.term term)
  | operators {entries : List (String × Term)} (distinct : (entries.map Prod.fst).Nodup)
      (plain : forall entry, entry ∈ entries -> entry.2.IsPlain) : IsPlain (.operators entries)

/-- The keys are bare columns, each with one entry, and the operands are plain. -/
structure Filter.IsPlain (filter : Filter) : Prop where
  bare : forall entry, entry ∈ filter.entries -> ∃ name, entry.1 = .bare name
  distinct : (filter.entries.map Prod.fst).Nodup
  operands : forall entry, entry ∈ filter.entries -> entry.2.IsPlain

/-- The document of a term.  Raw SQL has none of its own and becomes its text. -/
def Term.toJson : Term -> Json
  | .null => .null
  | .scalar value => value.toJson
  | .list values => .array (values.map Value.toJson)
  | .raw sql => .text sql

def Operand.toJson : Operand -> Json
  | .term single => single.toJson
  | .operators entries => .object (entries.map fun entry => (entry.1, entry.2.toJson))

/-- The column that a key is about, or the raw SQL that it is. -/
def Key.name : Key -> String
  | .bare name => name
  | .qualified _ name => name
  | .raw sql => sql

def Filter.toJson (filter : Filter) : Json :=
  .object (filter.entries.map fun entry => (entry.1.name, entry.2.toJson))

/-! ## Reading fails with the first fault -/

/-- The faults are the errors that the attempt fails for. -/
def FailsWithFirst {Result : Type} (attempt : Except BuildError Result)
    (faults : List ValueFault) : Prop :=
  FailsFor attempt (faults.map .invalidValue)

namespace FailsWithFirst

variable {Source Result Changed : Type} {attempt : Except BuildError Result}
  {faults : List ValueFault}

theorem exists_ok_iff (fails : FailsWithFirst attempt faults) :
    (∃ result, attempt = .ok result) ↔ faults = [] := by
  rw [FailsFor.exists_ok_iff fails, List.map_eq_nil_iff]

theorem head?_of_error (fails : FailsWithFirst attempt faults) {error : BuildError}
    (failed : attempt = .error error) :
    ∃ fault, faults.head? = some fault ∧ error = .invalidValue fault := by
  have first := (FailsFor.eq_error_iff fails error).mp failed
  rw [List.head?_map, Option.map_eq_some_iff] at first
  rcases first with ⟨fault, found, same⟩
  exact ⟨fault, found, same.symm⟩

theorem map (fails : FailsWithFirst attempt faults) (change : Result -> Changed) :
    FailsWithFirst (change <$> attempt) faults :=
  FailsFor.map fails change

/-- One attempt after the other fails with the first fault of all. -/
theorem mapM {attempt : Source -> Except BuildError Result} {faults : Source -> List ValueFault}
    (fails : forall source, FailsWithFirst (attempt source) (faults source))
    (sources : List Source) : FailsWithFirst (sources.mapM attempt) (sources.flatMap faults) := by
  rw [FailsWithFirst, List.map_flatMap]
  exact FailsFor.mapM fails sources

end FailsWithFirst

theorem Value.fits_iff (value : Int) :
    Int64.minValue.toInt ≤ value ∧ value ≤ Int64.maxValue.toInt ↔
      -Json.signBound ≤ value ∧ value < Json.signBound := by
  have least : Int64.minValue.toInt = -9223372036854775808 := by decide
  have greatest : Int64.maxValue.toInt = 9223372036854775807 := by decide
  rw [Json.signBound_eq]
  omega

theorem Value.ofJson_failsWithFirst (document : Json) :
    FailsWithFirst (ofJson document) document.valueFaults := by
  cases document with
  | integer value =>
      simp only [ofJson, Json.valueFaults, fits_iff]
      split
      · exact ⟨_, rfl⟩
      · rfl
  | bool value => exact ⟨_, rfl⟩
  | float value => exact ⟨_, rfl⟩
  | text value => exact ⟨_, rfl⟩
  | _ => rfl

theorem Term.ofJson_failsWithFirst (document : Json) :
    FailsWithFirst (ofJson document) document.termFaults := by
  cases document with
  | null => exact ⟨_, rfl⟩
  | array items => exact (FailsWithFirst.mapM Value.ofJson_failsWithFirst items).map _
  | _ => exact (Value.ofJson_failsWithFirst _).map _

theorem Operand.ofJson_failsWithFirst (document : Json) :
    FailsWithFirst (ofJson document) document.operandFaults := by
  cases document with
  | object members =>
      exact (FailsWithFirst.mapM (fun member => (Term.ofJson_failsWithFirst member.2).map _)
        members).map _
  | _ => exact (Term.ofJson_failsWithFirst _).map _

theorem Filter.ofJson_failsWithFirst (document : Json) :
    FailsWithFirst (ofJson document) document.filterFaults := by
  cases document with
  | object members =>
      exact (FailsWithFirst.mapM (fun member => (Operand.ofJson_failsWithFirst member.2).map _)
        members).map _
  | _ => rfl

/-! ## Reading and writing are inverse -/

/-- Reading and writing are inverse between what is valid and what is plain: what is
read from something valid is plain and is written as that again, and what is plain is
written as something valid and read from it. -/
structure IsLossless {Source Result : Type} (read : Source -> Except BuildError Result)
    (write : Result -> Source) (valid : Source -> Prop) (plain : Result -> Prop) : Prop where
  written {source : Source} {result : Result} :
    valid source -> read source = .ok result -> plain result ∧ write result = source
  readBack {result : Result} :
    plain result -> valid (write result) ∧ read (write result) = .ok result

namespace IsLossless

variable {Source Result : Type} {read : Source -> Except BuildError Result}
  {write : Result -> Source} {valid : Source -> Prop} {plain : Result -> Prop}

/-- One after the other. -/
theorem each (lossless : IsLossless read write valid plain) :
    IsLossless (List.mapM read) (List.map write)
      (fun sources => forall source, source ∈ sources -> valid source)
      (fun results => forall result, result ∈ results -> plain result) where
  written {sources results} allValid succeeded := by
    replace succeeded := mapM_eq_ok_iff.mp succeeded
    induction succeeded with
    | nil => exact ⟨List.forall_mem_nil plain, rfl⟩
    | cons attempted _ ih =>
        rcases List.forall_mem_cons.mp allValid with ⟨headValid, tailValid⟩
        rcases lossless.written headValid attempted with ⟨firstPlain, firstWritten⟩
        rcases ih tailValid with ⟨othersPlain, othersWritten⟩
        refine ⟨List.forall_mem_cons.mpr ⟨firstPlain, othersPlain⟩, ?_⟩
        rw [List.map_cons, firstWritten, othersWritten]
  readBack {results} allPlain := by
    have each (result : Result) (member : result ∈ results) :=
      lossless.readBack (allPlain result member)
    constructor
    · exact List.forall_mem_map.mpr fun result member => (each result member).1
    · rw [mapM_eq_ok_iff, List.forall₂_map_left_iff, List.forall₂_same]
      exact fun result member => (each result member).2

/-- Under names, which are read without fail. -/
theorem under {Name : Type} (lossless : IsLossless read write valid plain)
    (toName : String -> Name) (nameOf : Name -> String)
    (named : forall name, nameOf (toName name) = name) :
    IsLossless (fun member : String × Source => (toName member.1, ·) <$> read member.2)
      (fun entry => (nameOf entry.1, write entry.2)) (fun member => valid member.2)
      (fun entry => (∃ name, entry.1 = toName name) ∧ plain entry.2) where
  written {member entry} memberValid succeeded := by
    rcases map_eq_ok.mp succeeded with ⟨result, attempted, rfl⟩
    rcases lossless.written memberValid attempted with ⟨resultPlain, resultWritten⟩
    exact ⟨⟨⟨member.1, rfl⟩, resultPlain⟩, Prod.ext (named member.1) resultWritten⟩
  readBack {entry} entryPlain := by
    rcases entry with ⟨_, result⟩
    rcases entryPlain with ⟨⟨name, rfl⟩, resultPlain⟩
    rcases lossless.readBack resultPlain with ⟨resultValid, resultRead⟩
    refine ⟨resultValid, ?_⟩
    rw [resultRead, named]
    rfl

/-- One after the other, under names of their own. -/
theorem members {Name : Type} (lossless : IsLossless read write valid plain)
    (toName : String -> Name) (nameOf : Name -> String)
    (named : forall name, nameOf (toName name) = name) :
    IsLossless
      (List.mapM fun member : String × Source => (toName member.1, ·) <$> read member.2)
      (List.map fun entry => (nameOf entry.1, write entry.2))
      (fun members => (members.map Prod.fst).Nodup ∧
        forall member, member ∈ members -> valid member.2)
      (fun entries => (entries.map Prod.fst).Nodup ∧
        forall entry, entry ∈ entries -> (∃ name, entry.1 = toName name) ∧ plain entry.2) where
  written {members entries} membersValid succeeded := by
    have each := (lossless.under toName nameOf named).each
    rcases each.written membersValid.2 succeeded with ⟨entriesPlain, written⟩
    refine ⟨⟨?_, entriesPlain⟩, written⟩
    have distinct := membersValid.1
    rw [← written, List.map_map] at distinct
    apply List.Nodup.of_map nameOf
    rwa [List.map_map]
  readBack {entries} entriesPlain := by
    have each := (lossless.under toName nameOf named).each
    rcases each.readBack entriesPlain.2 with ⟨membersValid, read⟩
    refine ⟨⟨?_, membersValid⟩, read⟩
    -- Only for keys that are read from their names does it follow that the names differ.
    have namesDistinct : ((entries.map Prod.fst).map nameOf).Nodup := by
      refine List.Nodup.map_on ?_ entriesPlain.1
      intro first firstMember second secondMember same
      rcases List.mem_map.mp firstMember with ⟨entry, among, rfl⟩
      rcases List.mem_map.mp secondMember with ⟨other, otherAmong, rfl⟩
      rcases (entriesPlain.2 entry among).1 with ⟨name, isName⟩
      rcases (entriesPlain.2 other otherAmong).1 with ⟨otherName, isOtherName⟩
      rw [isName, isOtherName, named, named] at same
      rw [isName, isOtherName, same]
    rw [List.map_map] at namesDistinct ⊢
    exact namesDistinct

end IsLossless

theorem Value.lossless : IsLossless ofJson toJson Json.IsDocument IsPlain where
  written {document value} isDocument read := by
    cases isDocument with
    | bool value => cases read; exact ⟨.bool value, rfl⟩
    | float isFinite => cases read; exact ⟨.float isFinite, rfl⟩
    | text value => cases read; exact ⟨.text value, rfl⟩
    | @integer number _ _ =>
        rw [ofJson] at read
        split at read
        · next fits =>
            cases read
            have bounds := (fits_iff number).mp fits
            rw [Json.signBound_eq] at bounds
            refine ⟨.integer _, ?_⟩
            rw [toJson, Int64.toInt_ofInt_of_le (by omega) (by omega)]
        · cases read
    | _ => cases read
  readBack {value} plain := by
    cases plain with
    | bool value => exact ⟨.bool value, rfl⟩
    | float isFinite => exact ⟨.float isFinite, rfl⟩
    | text value => exact ⟨.text value, rfl⟩
    | integer number =>
        have least := number.le_toInt
        have greatest := number.toInt_lt
        have bound := Json.signBound_eq
        refine ⟨.integer (by omega) (by omega), ?_⟩
        rw [toJson, ofJson, if_pos ⟨number.minValue_le_toInt, number.toInt_le⟩,
          Int64.ofInt_toInt]

theorem Term.ofJson_of_scalar {document : Json} {value : Value}
    (read : Value.ofJson document = .ok value) : ofJson document = .ok (.scalar value) := by
  cases document with
  | null => cases read
  | array items => cases read
  | _ => exact congrArg (Term.scalar <$> ·) read

theorem Term.lossless : IsLossless ofJson toJson Json.IsDocument IsPlain where
  written {document term} isDocument read := by
    cases document with
    | null =>
        cases read
        exact ⟨.null, rfl⟩
    | array items =>
        cases isDocument with
        | array inside =>
            rcases map_eq_ok.mp read with ⟨values, members, rfl⟩
            rcases Value.lossless.each.written inside members with ⟨plain, written⟩
            exact ⟨.list plain, congrArg Json.array written⟩
    | _ =>
        rcases map_eq_ok.mp read with ⟨value, single, rfl⟩
        rcases Value.lossless.written isDocument single with ⟨plain, written⟩
        exact ⟨.scalar plain, written⟩
  readBack {term} plain := by
    cases plain with
    | null => exact ⟨.null, rfl⟩
    | list plain =>
        rcases Value.lossless.each.readBack plain with ⟨isDocument, read⟩
        exact ⟨.array isDocument, congrArg (Term.list <$> ·) read⟩
    | scalar plain =>
        rcases Value.lossless.readBack plain with ⟨isDocument, read⟩
        exact ⟨isDocument, ofJson_of_scalar read⟩

theorem Operand.ofJson_of_term {document : Json} {term : Term}
    (read : Term.ofJson document = .ok term) : ofJson document = .ok (.term term) := by
  cases document with
  | object members => cases read
  | _ => exact congrArg (Operand.term <$> ·) read

theorem Operand.lossless : IsLossless ofJson toJson Json.IsDocument IsPlain where
  written {document operand} isDocument read := by
    cases document with
    | object members =>
        cases isDocument with
        | object distinct inside =>
            rcases map_eq_ok.mp read with ⟨entries, each, rfl⟩
            have terms := Term.lossless.members id id fun _ => rfl
            rcases terms.written ⟨distinct, inside⟩ each with ⟨plain, written⟩
            exact ⟨.operators plain.1 fun entry member => (plain.2 entry member).2,
              congrArg Json.object written⟩
    | _ =>
        rcases map_eq_ok.mp read with ⟨term, single, rfl⟩
        rcases Term.lossless.written isDocument single with ⟨plain, written⟩
        exact ⟨.term plain, written⟩
  readBack {operand} plain := by
    cases plain with
    | term plain =>
        rcases Term.lossless.readBack plain with ⟨isDocument, read⟩
        exact ⟨isDocument, ofJson_of_term read⟩
    | operators distinct plain =>
        have terms := Term.lossless.members id id fun _ => rfl
        rcases terms.readBack
          ⟨distinct, fun entry member => ⟨⟨entry.1, rfl⟩, plain entry member⟩⟩ with
          ⟨valid, read⟩
        exact ⟨.object valid.1 valid.2, congrArg (Operand.operators <$> ·) read⟩

theorem Filter.lossless : IsLossless ofJson toJson Json.IsDocument IsPlain where
  written {document filter} isDocument read := by
    cases isDocument with
    | object distinct inside =>
        rcases map_eq_ok.mp read with ⟨entries, each, rfl⟩
        have operands := Operand.lossless.members Key.bare Key.name fun _ => rfl
        rcases operands.written ⟨distinct, inside⟩ each with ⟨plain, written⟩
        exact ⟨⟨fun entry member => (plain.2 entry member).1, plain.1,
          fun entry member => (plain.2 entry member).2⟩, congrArg Json.object written⟩
    | _ => cases read
  readBack {filter} plain := by
    have operands := Operand.lossless.members Key.bare Key.name fun _ => rfl
    have each (entry : Key × Operand) (member : entry ∈ filter.entries) :=
      And.intro (plain.bare entry member) (plain.operands entry member)
    rcases operands.readBack ⟨plain.distinct, each⟩ with ⟨valid, read⟩
    exact ⟨.object valid.1 valid.2, congrArg (Filter.mk <$> ·) read⟩

/-- A document is read as a filter if and only if it describes one.  Between the
documents that do and the plain filters, reading and writing are inverse.  What is not
read as a filter has faults, and the error is the first of them. -/
theorem Filter.ofJson_exact :
    (forall document : Json, document.IsDocument ->
      ((∃ filter, ofJson document = .ok filter) ↔ document.DescribesFilter)) ∧
    (forall (document : Json) (filter : Filter), document.IsDocument ->
      ofJson document = .ok filter -> filter.IsPlain ∧ filter.toJson = document) ∧
    (forall filter : Filter, filter.IsPlain ->
      filter.toJson.IsDocument ∧ ofJson filter.toJson = .ok filter) ∧
    forall (document : Json) (error : BuildError), ofJson document = .error error ->
      ∃ fault, document.filterFaults.head? = some fault ∧ error = .invalidValue fault := by
  refine ⟨fun document isDocument => ?_, fun _ _ => lossless.written,
    fun _ => lossless.readBack,
    fun document _ => (ofJson_failsWithFirst document).head?_of_error⟩
  rw [← Json.filterFaults_eq_nil_iff isDocument]
  exact (ofJson_failsWithFirst document).exists_ok_iff

/-- A list of the number 2.5 and a text, under the name of an operator, behind a `null`. -/
def mixedDocument : Json :=
  .object [("a", .null), ("b", .object [("in", .array [.float ⟨0x4004000000000000⟩, .text "x"])])]

theorem mixedDocument_isDocument : mixedDocument.IsDocument := by
  have number : Json.IsDocument (.float ⟨0x4004000000000000⟩) := .float (by decide)
  have items := List.forall_mem_cons.mpr
    ⟨number, List.forall_mem_singleton.mpr (Json.IsDocument.text "x")⟩
  have operators : Json.IsDocument
      (.object [("in", .array [.float ⟨0x4004000000000000⟩, .text "x"])]) :=
    .object (by decide) (List.forall_mem_singleton.mpr (.array items))
  exact .object (by decide)
    (List.forall_mem_cons.mpr ⟨.null, List.forall_mem_singleton.mpr operators⟩)

/-- A `null` in a list, and behind it an integer that is too great. -/
def faultyDocument : Json :=
  .object [("a", .array [.integer 1, .null]), ("b", .integer Json.signBound)]

theorem Filter.ofJson_exact_mixedDocument :
    (∃ filter, ofJson mixedDocument = .ok filter ∧ filter.toJson = mixedDocument ∧
      ofJson filter.toJson = .ok filter) ∧
      mixedDocument.DescribesFilter ∧
      faultyDocument.filterFaults = [.notAScalar "null", .outOfRange Json.signBound] ∧
      ∃ fault, faultyDocument.filterFaults.head? = some fault ∧
        ofJson faultyDocument = .error (.invalidValue fault) := by
  rcases ofJson_exact with ⟨accepts, written, readBack, rejects⟩
  have isDocument := mixedDocument_isDocument
  rcases accepts mixedDocument isDocument with ⟨describes, -⟩
  have read : ∃ filter, ofJson mixedDocument = .ok filter := ⟨_, rfl⟩
  rcases read with ⟨filter, read⟩
  rcases written mixedDocument filter isDocument read with ⟨plain, same⟩
  have failed : ofJson faultyDocument = .error (.invalidValue (.notAScalar "null")) := by rfl
  rcases rejects faultyDocument _ failed with ⟨fault, first, error⟩
  exact ⟨⟨filter, read, same, (readBack filter plain).2⟩, describes ⟨filter, read⟩, by rfl,
    fault, first, failed.trans (congrArg Except.error error)⟩

end SelectBuilder
