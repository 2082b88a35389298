import HilBridge.Config.Basic

/-!
# `HilBridge.Config.Override` — setting single numbers

A number of the configuration is named by the path to it, the names and positions on the way in a list. A
path that leads nowhere sets nothing. Nothing is checked, so that also values can be set that no text writes.
-/

namespace HilBridge

variable {α : Type}

namespace Noise

def override (n : Noise α) (field : String) (x : α) : Noise α :=
  match field with
  | "mean" => { n with mean := x }
  | "stddev" => { n with stddev := x }
  | _ => n

end Noise

namespace SensorNoise

def override (n : SensorNoise α) (reading field : String) (x : α) : SensorNoise α :=
  match reading with
  | "baro_pressure_hpa" => { n with pressure := n.pressure.override field x }
  | "baro_temperature_c" => { n with temperature := n.temperature.override field x }
  | "mag_gauss" => { n with magnetic := n.magnetic.override field x }
  | "gps_horizontal_m" => { n with horizontal := n.horizontal.override field x }
  | "gps_vertical_m" => { n with vertical := n.vertical.override field x }
  | "gps_velocity_ms" => { n with velocity := n.velocity.override field x }
  | _ => n

end SensorNoise

namespace Channel

def override (c : Channel α) (field : String) (x : α) : Channel α :=
  match field with
  | "input_scaling" => { c with inputScaling := x }
  | "input_offset" => { c with inputOffset := x }
  | "zero_position_disarmed" => { c with zeroDisarmed := x }
  | "zero_position_armed" => { c with zeroArmed := x }
  | _ => c

end Channel

namespace ThrustTorque

def override (t : ThrustTorque α) (field : String) (x : α) : ThrustTorque α :=
  match field with
  | "thrust_scaling" => { t with thrustScaling := x }
  | "torque_scaling" => { t with torqueScaling := x }
  | _ => t

end ThrustTorque

namespace GeoPoint

def override (p : GeoPoint α) (field : String) (x : α) : GeoPoint α :=
  match field with
  | "lat_deg" => { p with latitude := x }
  | "lon_deg" => { p with longitude := x }
  | "alt_m" => { p with altitude := x }
  | _ => p

end GeoPoint

namespace Vec3

def override (v : Vec3 α) (position : String) (x : α) : Vec3 α :=
  match position with
  | "0" => { v with x := x }
  | "1" => { v with y := x }
  | "2" => { v with z := x }
  | _ => v

end Vec3

namespace Config

/-- Sets the number at a path. -/
def override (c : Config Float) (path : List String) (x : Float) : Config Float :=
  match path with
  | ["speed_factor"] => { c with speedFactor := x }
  | ["imu_update_interval_s"] => { c with imuInterval := x }
  | ["baro_update_interval_s"] => { c with barometerInterval := x }
  | ["mag_update_interval_s"] => { c with magnetometerInterval := x }
  | ["gps_update_interval_s"] => { c with gpsInterval := x }
  | ["heartbeat_interval_s"] => { c with heartbeatInterval := x }
  | ["gravity", position] => { c with gravity := c.gravity.override position x }
  | ["home", field] => { c with home := c.home.override field x }
  | ["channels", position, field] =>
    match position.toNat? with
    | some position => { c with channels := c.channels.modify position (·.override field x) }
    | none => c
  | ["cmd_vel", field] => { c with thrustTorque := c.thrustTorque.map (·.override field x) }
  | ["noise", reading, field] => { c with noise := c.noise.override reading field x }
  | _ => c

end Config

end HilBridge
