import DTwin.Types.Telemetry

/-!
# DTwin.Types.Spatial — kinds of places and of plant

The enumerations of `packages/types/src/spatial.ts` and of migration 001.
-/

namespace DTwin

inductive ZoneType
  | office | meeting | corridor | serverRoom | lobby | plantRoom | retail | restroom | stairwell | parking
deriving DecidableEq, Repr

inductive EquipmentType
  | ahu | vav | fcu | chiller | boiler | pump | coolingTower | electricMeter | waterMeter | btuMeter | lightingCircuit
  | evCharger
deriving DecidableEq, Repr

inductive DayType | weekday | saturday | sunday | holiday
deriving DecidableEq, Repr

end DTwin
