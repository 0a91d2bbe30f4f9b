import Halcyon.Joke.VarType

/-!
# The events of the script language

`Types/SupportedEventList.cs`: the events a state can handle, with the types of their parameters
and the number under which the script engine posts them.  The compiler checks event handlers
against this list, and the assembler stores the number with the handler.
-/

namespace Halcyon.Joke

/-- The signature of an event; no event returns a value. -/
structure EventSig where
  functionName : String
  paramTypes : List VarType
  tableIndex : Nat
  deriving DecidableEq, Repr

/-- The list of supported events with their signatures. -/
def supportedEvents : List EventSig :=
  [⟨"at_rot_target", [.integer, .rotation, .rotation], 1⟩,
    ⟨"at_target", [.integer, .vector, .vector], 2⟩,
    ⟨"attach", [.key], 3⟩,
    ⟨"changed", [.integer], 4⟩,
    ⟨"collision", [.integer], 5⟩,
    ⟨"collision_end", [.integer], 6⟩,
    ⟨"collision_start", [.integer], 7⟩,
    ⟨"control", [.key, .integer, .integer], 8⟩,
    ⟨"dataserver", [.key, .string], 9⟩,
    ⟨"email", [.string, .string, .string, .string, .integer], 10⟩,
    ⟨"http_response", [.key, .integer, .list, .string], 11⟩,
    ⟨"http_request", [.key, .string, .string], 12⟩,
    ⟨"land_collision", [.vector], 13⟩,
    ⟨"land_collision_end", [.vector], 14⟩,
    ⟨"land_collision_start", [.vector], 15⟩,
    ⟨"link_message", [.integer, .integer, .string, .key], 16⟩,
    ⟨"listen", [.integer, .string, .key, .string], 17⟩,
    ⟨"money", [.key, .integer], 18⟩,
    ⟨"moving_end", [], 19⟩,
    ⟨"moving_start", [], 20⟩,
    ⟨"no_sensor", [], 21⟩,
    ⟨"not_at_rot_target", [], 22⟩,
    ⟨"not_at_target", [], 23⟩,
    ⟨"object_rez", [.key], 24⟩,
    ⟨"on_rez", [.integer], 25⟩,
    ⟨"remote_data", [.integer, .key, .key, .string, .integer, .string], 26⟩,
    ⟨"run_time_permissions", [.integer], 27⟩,
    ⟨"sensor", [.integer], 28⟩,
    ⟨"state_entry", [], 29⟩,
    ⟨"state_exit", [], 30⟩,
    ⟨"timer", [], 31⟩,
    ⟨"touch", [.integer], 32⟩,
    ⟨"touch_start", [.integer], 33⟩,
    ⟨"touch_end", [.integer], 34⟩,
    ⟨"bot_update", [.string, .integer, .list], 35⟩,
    ⟨"transaction_result", [.key, .integer, .string], 36⟩]

/-- `SupportedEventList.GetEventByName`. -/
def getEventByName (name : String) : Option EventSig :=
  supportedEvents.find? fun e => e.functionName == name

/-- `SupportedEventList.HasEventBySig`, for handlers, which have no result. -/
def hasEventBySig (name : String) (parms : List VarType) : Bool :=
  (getEventByName name).any fun e => e.paramTypes == parms

end Halcyon.Joke
