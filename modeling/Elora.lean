import Elora.Cxx
import Elora.Tracker.Basic
import Elora.Tracker.Reference
import Elora.Tracker.MacInvariant
import Elora.Tracker.Commute
import Elora.Tracker.Counting
import Elora.Phy.OnAirTime
import Elora.Tracker.Statistics
import Elora.Tracker.RunCounts
import Elora.Tracker.Reorder
import Elora.Bike.Dataset
import Elora.Bike.Waypoints
import Elora.Helper.NetworkServer
