import FaultCorrelation.Topology.Basic
import FaultCorrelation.Fault

/-! # Alarms in the topology

Alarms are held by the vertex of their resource; a resource that is not in the inventory gets a
vertex of its own.
-/

namespace FaultCorrelation.Topology

variable {W : Type}

/-- Hold an alarm at the vertex of its resource. Answers with that vertex and whether it held no
alarm before. -/
def putAlarm (graph : Topology W) (alarm : Alarm) :
    Except DataFault (Topology W × VertexId × Bool) :=
  match alarm.resource with
  | none => .error (.noResourceKey alarm.id)
  | some key =>
    if key.isBlank then .error (.noResourceKey alarm.id)
    else if alarm.id.isEmpty then .error .emptyAlarmId
    else
      let (graph, id, _) := graph.ensureVertex key
      let wasActive := graph.vertices[id]?.any Vertex.isActive
      .ok (graph.updateVertex id fun vertex => vertex.putAlarm alarm graph.clock, id, !wasActive)

/-- The alarm of an id that a vertex holds. -/
def alarmAt? (graph : Topology W) (id : VertexId) (alarm : String) : Option Alarm :=
  graph.vertices[id]?.bind fun vertex => vertex.alarms[alarm]?

/-- Let go of an alarm; the vertex stays. -/
def eraseAlarm (graph : Topology W) (id : VertexId) (alarm : String) : Topology W :=
  graph.updateVertex id fun vertex => vertex.eraseAlarm alarm graph.clock

/-- Let go of an alarm, and of its vertex if that now carries nothing. -/
def releaseAlarm (graph : Topology W) (id : VertexId) (alarm : String) : Topology W :=
  ((graph.eraseAlarm id alarm).prune id).1

end FaultCorrelation.Topology
