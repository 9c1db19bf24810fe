/-
`SkillBuddy.data.DataBaseManager.DataManager`: the parameters in full.

# Two views of a parameter

`DataManager` keeps of a parameter what `InitQuery` asks for: its name,
and whether a command's collection has it already. Here a parameter has
everything the `Add…Para` helpers give it, and a `FullScope` is a scope
together with its manager's parameters in full. The methods that run
commands are those of `DataManager`; on the parameters they leave the
marks of the collection, and the values the driver writes to those that
are not for input only (`outputs`).

That both views speak of the same parameters is a field of `FullScope`.
It is kept because no command gives a parameter another name
(`keeps_names_perform`, `keeps_names_readAll`), none is added or removed,
and what the driver writes is no part of what `DataManager` keeps
(`erase_writeAll`).

# The helpers

There are some thirty `Add…Para` helpers, and most of them are one text:
a parameter with a name, a type, a direction and a value or `DBNull`
(`typed`). Each keeps its own definition, with the type, the size and
the treatment of null it has in the source; those that set no type, or
store JSON, say so.

An overload without a direction means `Input`, and one without `?` is
the other at a value that is not null.
-/
import SkillBuddy.Core.Csv
import SkillBuddy.Data.DataManager
import SkillBuddy.DotNet.Encoding

namespace SkillBuddy

open DotNet Lib

-- ============================================================ directions

/-- `QueryParameterDirection`; the cast of another number is no member. -/
inductive QueryParameterDirection where
  | input
  | output
  | return_
  | inputOutput
  | undefined (value : Int32)
  deriving DecidableEq

/-- `ParameterDirection`. -/
inductive ParameterDirection where
  | input
  | output
  | inputOutput
  | returnValue
  deriving DecidableEq, Repr

/-- `GetParaType(Direction)`. -/
def getParaType : QueryParameterDirection → ParameterDirection
  | .output => .inputOutput
  | .return_ => .returnValue
  | .inputOutput => .inputOutput
  | .input | .undefined _ => .input

-- ================================================================= values

/-- `NpgsqlDbType`, as far as the helpers name it. -/
inductive NpgsqlDbType where
  | smallint | integer | bigint | char | varchar | text | boolean | bytea
  | uuid | date | timestamp | time | interval | numeric | real | double
  | money | jsonb
  | array (element : NpgsqlDbType)
  | range (element : NpgsqlDbType)
  deriving DecidableEq, Repr

/-- `NpgsqlRange<T>`. -/
structure NpgsqlRange (α : Type) where
  lowerBound : Option α
  lowerBoundIsInclusive : Bool
  upperBound : Option α
  upperBoundIsInclusive : Bool

/-- What a parameter can hold: the objects the helpers box. -/
inductive ParaObject where
  | short (n : Int16)
  | int (n : Int32)
  | long (n : Int64)
  | char (c : CodeUnit)
  | string (s : Str)
  | bool (b : Bool)
  | guid (g : Guid)
  | dateTime (d : DateTime)
  | timeSpan (ticks : Int64)
  | decimal (d : Decimal)
  | double (bits : UInt64)
  | float (bits : UInt32)
  | bytes (bytes : List UInt8)
  | ints (values : List Int32)
  | strings (values : List (Option Str))
  | guids (values : List Guid)
  | intRange (range : NpgsqlRange Int32)
  | dateTimeRange (range : NpgsqlRange DateTime)
  | composite (value : Obj)

/-- `Value`: an object, or `DBNull.Value`. -/
inductive ParaValue where
  | dbNull
  | object (value : ParaObject)

/-- `value ?? (object)DBNull.Value`. -/
def orDBNull {α : Type} (box : α → ParaObject) : Option α → ParaValue
  | none => .dbNull
  | some value => .object (box value)

/-- `string.IsNullOrEmpty(value) ? DBNull.Value : value`. -/
def textOrDBNull : Option Str → ParaValue
  | none | some [] => .dbNull
  | some (c :: cs) => .object (.string (c :: cs))

-- ============================================================= parameters

/-- What a helper makes a parameter of. -/
structure ParameterSpec where
  parameterName : String
  npgsqlDbType : Option NpgsqlDbType
  size : Int32 := 0
  scale : UInt8 := 0
  precision : UInt8 := 0
  direction : ParameterDirection
  value : ParaValue

/-- `NpgsqlParameter` in full. -/
structure Parameter extends ParameterSpec where
  attached : Bool := false

/-- What `DataManager` keeps of it. -/
def Parameter.erase (p : Parameter) : NpgsqlParameter :=
  ⟨p.parameterName, p.attached⟩

/-- With the mark of a parameter that a query has left. -/
def Parameter.marked (p : Parameter) (q : NpgsqlParameter) : Parameter :=
  { p with attached := q.attached }

/-- With a value that the driver writes; one for input only it leaves. -/
def ParameterSpec.written (p : ParameterSpec) (output : Option ParaValue) :
    ParameterSpec :=
  if p.direction = .input then p
  else { p with value := output.getD p.value }

/-- With what the driver writes to the parameters of a command, by
place. -/
def writeAll (outputs : Nat → Option ParaValue) (ps : List Parameter) :
    List Parameter :=
  ps.mapIdx fun i p =>
    { p with toParameterSpec := p.toParameterSpec.written (outputs i) }

/-- A scope, and its manager's parameters in full. -/
structure FullScope where
  scope : Scope
  oParameters : List Parameter
  erased : scope.self.oParameters = oParameters.map Parameter.erase

-- ===================================================== the names are kept

namespace DataManager

/-- The names of the parameters. -/
def parameterNames (s : Scope) : List String :=
  s.self.oParameters.map (·.parameterName)

/-- The parameters have these names. -/
def Named (names : List String) (s : Scope) : Prop :=
  parameterNames s = names

section Names

variable {out : Outcomes} {names : List String}

/-- A collection takes a parameter as it is; when it has one already the
rest is not taken, and keeps its names too. -/
theorem names_attach (ps : List NpgsqlParameter) :
    (attach ps).2.map (·.parameterName) = ps.map (·.parameterName) := by
  induction ps with
  | nil => rfl
  | cons p ps ih =>
      rw [attach]
      split
      · rfl
      · exact congrArg (p.parameterName :: ·) ih

theorem keeps_names_onConnection {α : Type} (r : Nat)
    (call : Eff Exn Session α) :
    Eff.Keeps (Named names) (onConnection r call) :=
  fun _ h => h

theorem keeps_names_addParameters :
    Eff.Keeps (Named names) addParameters := by
  intro s hs
  have hattach : Named names ⟨{ s.self with
      oParameters := (attach s.self.oParameters).2 }, s.heap⟩ :=
    (names_attach s.self.oParameters).trans hs
  unfold addParameters
  rw [Eff.run_bind, Eff.run_get]
  dsimp only
  refine Eff.bind_ends hattach ?_
  intro _
  exact Eff.keeps_ite (fun _ h => h) (Eff.keeps_throw _)

theorem keeps_names_closeLocal :
    Eff.Keeps (Named names) (closeLocal out) := by
  refine Eff.keeps_bind Eff.keeps_get ?_
  intro t
  cases t.self.oConn with
  | none => exact fun _ h => h
  | some r =>
      exact Eff.keeps_ite (keeps_names_onConnection r _) (fun _ h => h)

theorem keeps_names_openLocal :
    Eff.Keeps (Named names) (openLocal out) := by
  refine Eff.keeps_bind Eff.keeps_get ?_
  intro t
  refine Eff.keeps_bind (fun _ h => h) ?_
  intro _
  exact Eff.keeps_bind (keeps_names_onConnection _ _) fun _ _ h => h

/-- A command on a connection keeps them, whether there is one or not. -/
theorem keeps_names_command (t : Scope) (r : Nat) :
    Eff.Keeps (Named names)
      (if (t.heap.connection r).oConn.isNone then
        Eff.throw (.invalidOperation "No open connection available.")
      else do
        addParameters
        pure ({ connection := r, command := t.self.command }
          : NpgsqlCommand)) := by
  refine Eff.keeps_ite (Eff.keeps_throw _) ?_
  exact Eff.keeps_bind keeps_names_addParameters fun _ _ h => h

/-- `InitQuery` keeps the names, however it ends. -/
theorem keeps_names_initQuery :
    Eff.Keeps (Named names) (initQuery out) := by
  refine Eff.keeps_bind (fun _ h => h) ?_
  intro _
  refine Eff.keeps_bind Eff.keeps_get ?_
  intro s
  refine Eff.keeps_ite (Eff.keeps_bind keeps_names_openLocal ?_) ?_
  · intro _
    refine Eff.keeps_bind Eff.keeps_get ?_
    intro t
    cases t.self.oConn with
    | none => exact Eff.keeps_throw _
    | some r => exact keeps_names_command t r
  · refine Eff.keeps_bind Eff.keeps_get ?_
    intro t
    cases t.self.oConn with
    | none => exact Eff.keeps_throw _
    | some r => exact keeps_names_command t r

/-- So does every query method. -/
theorem keeps_names_perform (method : Query) (answer : Answer) :
    Eff.Keeps (Named names) (method.perform out answer) := by
  intro s hs
  rw [Query.perform_run, runQuery]
  refine Eff.bind_ends (keeps_names_initQuery s hs) ?_
  intro oCmd
  refine Eff.keeps_bind ?_ (fun _ _ h => h)
  exact Eff.keeps_finallyDo (keeps_names_onConnection _ _)
    keeps_names_closeLocal

/-- So does a reader. -/
theorem keeps_names_readAll (isAsync : Bool) :
    Eff.Keeps (Named names) (readAll out isAsync) := by
  have hreader : Eff.Keeps (Named names)
      (executeReader out) := by
    have hend : Eff.Keeps (Named names) (do
        let oCmd ← initQuery out
        onCommand oCmd (Npgsql.executeReader out oCmd.command)
        pure (some { connection := oCmd.connection })
          : Eff Exn Scope (Option NpgsqlDataReader)) := by
      refine Eff.keeps_bind keeps_names_initQuery ?_
      intro oCmd
      exact Eff.keeps_bind (keeps_names_onConnection _ _) fun _ _ h => h
    intro s hs
    have hs' := hend s hs
    rw [executeReader, Eff.run_tryCatch]
    generalize Eff.run _ s = end_ at hs' ⊢
    obtain ⟨_ | _, t⟩ := end_ <;> exact hs'
  rw [readAll_eq]
  refine Eff.keeps_bind hreader ?_
  intro reader
  cases reader with
  | none => exact fun _ h => h
  | some reader =>
      exact Eff.keeps_bind (keeps_names_onConnection _ _) fun _ _ h => h

end Names

end DataManager

namespace FullScope

/-- The erasure of parameters with the marks that were left, by place: the
names tell that the two lists belong together. -/
theorem erase_zipWith_marked (ps : List Parameter) :
    ∀ qs : List NpgsqlParameter,
      qs.map (·.parameterName) = ps.map (·.parameterName) →
      (List.zipWith Parameter.marked ps qs).map Parameter.erase = qs := by
  induction ps with
  | nil =>
      intro qs h
      rw [List.map_nil, List.map_eq_nil_iff] at h
      rw [h]
      rfl
  | cons p ps ih =>
      intro qs h
      cases qs with
      | nil => rfl
      | cons q qs =>
          obtain ⟨hname, hrest⟩ := List.cons.inj h
          rw [List.zipWith_cons_cons, List.map_cons, ih qs hrest]
          refine congrArg (· :: qs) ?_
          have hname' : q.parameterName = p.parameterName := hname
          unfold Parameter.erase Parameter.marked
          rw [← hname']

/-- What the driver writes is no part of the erasure. -/
theorem erase_writeAll (outputs : Nat → Option ParaValue)
    (ps : List Parameter) :
    (writeAll outputs ps).map Parameter.erase = ps.map Parameter.erase := by
  unfold writeAll
  apply List.ext_getElem?
  intro i
  rw [List.getElem?_map, List.getElem?_mapIdx, List.getElem?_map,
    Option.map_map]
  refine congrArg (Option.map · ps[i]?) (funext fun p => ?_)
  unfold Parameter.erase ParameterSpec.written
  rw [Function.comp_apply]
  dsimp only
  split <;> rfl

-- =========================================================== the helpers

variable (s : FullScope)

/-- `this.oParameters.Add(oPara)`. -/
def addPara (oPara : ParameterSpec) : FullScope where
  scope := { s.scope with
    self := s.scope.self.addPara oPara.parameterName }
  oParameters := s.oParameters ++ [{ oPara with attached := false }]
  erased := by
    rw [List.map_append, ← s.erased]
    rfl

/-- A parameter of a type that is given. -/
def typed (name : String) (npgsqlDbType : NpgsqlDbType)
    (direction : QueryParameterDirection) (value : ParaValue) :
    ParameterSpec where
  parameterName := name
  npgsqlDbType := some npgsqlDbType
  direction := getParaType direction
  value := value

/-- `AddSmallIntPara`. -/
def addSmallIntPara (name : String) (value : Option Int16)
    (direction : QueryParameterDirection := .input) : FullScope :=
  s.addPara (typed name .smallint direction (orDBNull .short value))

/-- `AddIntegerPara`. -/
def addIntegerPara (name : String) (value : Option Int32)
    (direction : QueryParameterDirection := .input) : FullScope :=
  s.addPara (typed name .integer direction (orDBNull .int value))

/-- `AddIntegerBigPara`. -/
def addIntegerBigPara (name : String) (value : Option Int64)
    (direction : QueryParameterDirection := .input) : FullScope :=
  s.addPara (typed name .bigint direction (orDBNull .long value))

/-- `AddCharPara`. -/
def addCharPara (name : String) (size : Int32) (value : CodeUnit)
    (direction : QueryParameterDirection := .input) : FullScope :=
  s.addPara { typed name .char direction (.object (.char value)) with size }

/-- `AddVarcharPara`. -/
def addVarcharPara (name : String) (size : Int32) (value : Option Str)
    (direction : QueryParameterDirection := .input) : FullScope :=
  s.addPara { typed name .varchar direction (textOrDBNull value) with size }

/-- `AddBoolPara`. -/
def addBoolPara (name : String) (value : Option Bool)
    (direction : QueryParameterDirection := .input) : FullScope :=
  s.addPara (typed name .boolean direction (orDBNull .bool value))

/-- `AddImagePara`. -/
def addImagePara (name : String) (value : Option Str)
    (direction : QueryParameterDirection := .input) : FullScope :=
  s.addPara (typed name .bytea direction (textOrDBNull value))

/-- `AddGuidPara`. -/
def addGuidPara (name : String) (value : Option Guid)
    (direction : QueryParameterDirection := .input) : FullScope :=
  s.addPara (typed name .uuid direction (orDBNull .guid value))

/-- `AddDatePara`. -/
def addDatePara (name : String) (value : Option DateTime)
    (direction : QueryParameterDirection := .input) : FullScope :=
  s.addPara (typed name .date direction (orDBNull .dateTime value))

/-- `AddDateTimePara`. -/
def addDateTimePara (name : String) (value : Option DateTime)
    (direction : QueryParameterDirection := .input) : FullScope :=
  s.addPara (typed name .timestamp direction (orDBNull .dateTime value))

/-- `AddTimePara`. -/
def addTimePara (name : String) (value : Option Int64)
    (direction : QueryParameterDirection := .input) : FullScope :=
  s.addPara (typed name .time direction (orDBNull .timeSpan value))

/-- `AddDecimalPara`. -/
def addDecimalPara (name : String) (scale precision : UInt8)
    (value : Option Decimal)
    (direction : QueryParameterDirection := .input) : FullScope :=
  s.addPara { typed name .numeric direction (orDBNull .decimal value) with
    scale, precision }

/-- `AddFloatPara`. -/
def addFloatPara (name : String) (value : Option UInt64)
    (direction : QueryParameterDirection := .input) : FullScope :=
  s.addPara (typed name .double direction (orDBNull .double value))

/-- `AddTimeStampPara`. -/
def addTimeStampPara (name : String) (value : Option (List UInt8))
    (direction : QueryParameterDirection := .input) : FullScope :=
  s.addPara (typed name .bytea direction (orDBNull .bytes value))

/-- `AddVarBinaryPara`. -/
def addVarBinaryPara (name : String) (oValue : Option (List UInt8))
    (direction : QueryParameterDirection := .input) : FullScope :=
  s.addPara (typed name .bytea direction (orDBNull .bytes oValue))

/-- `AddStructuredPara`: the table as JSON. -/
def addStructuredPara (serializeObject : Helper.DataTable → Str)
    (name : String) (oValue : Helper.DataTable)
    (direction : QueryParameterDirection := .input) : FullScope :=
  s.addPara (typed name .jsonb direction
    (.object (.string (serializeObject oValue))))

/-- `AddJsonPara`: null as the JSON text of null. -/
def addJsonPara (serializeObject : Option Obj → Str) (name : String)
    (oValue : Option Obj)
    (direction : QueryParameterDirection := .input) : FullScope :=
  s.addPara (typed name .jsonb direction
    (.object (.string (serializeObject oValue))))

/-- `AddJsonbPara`. -/
def addJsonbPara (serializeObject : Option Obj → Str) (name : String)
    (value : Option Obj)
    (direction : QueryParameterDirection := .input) : FullScope :=
  s.addJsonPara serializeObject name value direction

/-- `AddNullValuePara`: without a type. -/
def addNullValuePara (name : String)
    (direction : QueryParameterDirection := .input) : FullScope :=
  s.addPara
    { parameterName := name
      npgsqlDbType := none
      direction := getParaType direction
      value := .dbNull }

/-- `AddReturnPara()`. -/
def addReturnPara : FullScope :=
  s.addIntegerPara "ReturnIntPara" (some 0) .return_

/-- `AddIntArrayPara`. -/
def addIntArrayPara (name : String) (values : Option (List Int32))
    (direction : QueryParameterDirection := .input) : FullScope :=
  s.addPara (typed name (.array .integer) direction (orDBNull .ints values))

/-- `AddTextArrayPara`. -/
def addTextArrayPara (name : String) (values : Option (List (Option Str)))
    (direction : QueryParameterDirection := .input) : FullScope :=
  s.addPara (typed name (.array .text) direction (orDBNull .strings values))

/-- `AddUuidArrayPara`. -/
def addUuidArrayPara (name : String) (values : Option (List Guid))
    (direction : QueryParameterDirection := .input) : FullScope :=
  s.addPara (typed name (.array .uuid) direction (orDBNull .guids values))

/-- `AddByteaPara`. -/
def addByteaPara (name : String) (value : Option (List UInt8))
    (direction : QueryParameterDirection := .input) : FullScope :=
  s.addPara (typed name .bytea direction (orDBNull .bytes value))

/-- `AddIntRangePara`. -/
def addIntRangePara (name : String) (range : Option (NpgsqlRange Int32))
    (direction : QueryParameterDirection := .input) : FullScope :=
  s.addPara (typed name (.range .integer) direction
    (orDBNull .intRange range))

/-- `AddTimestampRangePara`. -/
def addTimestampRangePara (name : String)
    (range : Option (NpgsqlRange DateTime))
    (direction : QueryParameterDirection := .input) : FullScope :=
  s.addPara (typed name (.range .timestamp) direction
    (orDBNull .dateTimeRange range))

/-- `AddCompositePara<T>`: without a type. -/
def addCompositePara (name : String) (value : Option Obj)
    (direction : QueryParameterDirection := .input) : FullScope :=
  s.addPara
    { parameterName := name
      npgsqlDbType := none
      direction := getParaType direction
      value := orDBNull .composite value }

/-- `AddTableValuedPara<T>`: null is no JSON. -/
def addTableValuedPara {α : Type} (serializeObject : α → Str)
    (name : String) (values : Option α)
    (direction : QueryParameterDirection := .input) : FullScope :=
  s.addPara (typed name .jsonb direction
    (orDBNull (.string ∘ serializeObject) values))

/-- `AddTextPara`. -/
def addTextPara (name : String) (value : Option Str)
    (direction : QueryParameterDirection) : FullScope :=
  s.addPara (typed name .text direction (textOrDBNull value))

/-- `AddIntervalPara`. -/
def addIntervalPara (name : String) (value : Option Int64)
    (direction : QueryParameterDirection := .input) : FullScope :=
  s.addPara (typed name .interval direction (orDBNull .timeSpan value))

/-- `AddRealPara`. -/
def addRealPara (name : String) (value : Option UInt32)
    (direction : QueryParameterDirection := .input) : FullScope :=
  s.addPara (typed name .real direction (orDBNull .float value))

/-- `AddMoneyPara`. -/
def addMoneyPara (name : String) (value : Option Decimal)
    (direction : QueryParameterDirection := .input) : FullScope :=
  s.addPara (typed name .money direction (orDBNull .decimal value))

/-- `ClearParameters()`. -/
def clearParameters : FullScope where
  scope := { s.scope with self := s.scope.self.clearParameters }
  oParameters := []
  erased := rfl

-- =============================================================== reading

/-- A name as a `string`. -/
def nameText (name : String) : Str :=
  name.toList.flatMap fun c => unitsOf c.toNat

/-- `name.Trim().ToLower()`, in a culture. -/
def canonicalName (toLower : Str → Str) (name : String) : Str :=
  toLower (Helper.trim (nameText name))

/-- `GetParaValue(ParaName)`: the first parameter of that name. -/
def getParaValue (toLower : Str → Str) (paraName : String) :
    Option ParaValue :=
  if Helper.isNullOrWhiteSpace (nameText paraName) then none
  else
    (s.oParameters.find? fun p =>
      canonicalName toLower p.parameterName
        = canonicalName toLower paraName).map (·.value)

/-- `GetReturnParaValue()`. -/
def getReturnParaValue (toLower : Str → Str) : Option ParaValue :=
  s.getParaValue toLower "ReturnIntPara"

-- =============================================================== queries

/-- With the scope a command has left, and what the driver has written. -/
def returned (t : Scope)
    (h : DataManager.parameterNames t = DataManager.parameterNames s.scope)
    (outputs : Nat → Option ParaValue) : FullScope where
  scope := t
  oParameters := writeAll outputs
    (List.zipWith Parameter.marked s.oParameters t.self.oParameters)
  erased := by
    unfold DataManager.parameterNames at h
    rw [s.erased, List.map_map] at h
    rw [erase_writeAll, erase_zipWith_marked _ _ h]

/-- A query method. -/
def query (method : DataManager.Query) (answer : Answer) (out : Outcomes)
    (outputs : Nat → Option ParaValue) : FullScope :=
  s.returned ((method.perform out answer).run s.scope).2
    (DataManager.keeps_names_perform method answer s.scope rfl) outputs

/-- `ExecuteReader`, the reader read and closed. -/
def read (isAsync : Bool) (out : Outcomes)
    (outputs : Nat → Option ParaValue) : FullScope :=
  s.returned ((DataManager.readAll out isAsync).run s.scope).2
    (DataManager.keeps_names_readAll isAsync s.scope rfl) outputs

/-- `GetCommand()`; nothing is executed. -/
def getCommand (out : Outcomes) : FullScope :=
  s.returned ((DataManager.getCommand out).run s.scope).2
    (DataManager.keeps_names_initQuery s.scope rfl) fun _ => none

end FullScope

end SkillBuddy
