import BarDaemon.AgendaAdoption
import BarDaemon.AgendaCatalogs
import BarDaemon.AgendaCivilDates
import BarDaemon.AgendaCursors
import BarDaemon.AgendaDayBounds
import BarDaemon.AgendaExports
import BarDaemon.AgendaImportDates
import BarDaemon.AgendaImports
import BarDaemon.AgendaLifecycles
import BarDaemon.AgendaMutations
import BarDaemon.AgendaOwners
import BarDaemon.AgendaPages
import BarDaemon.AgendaPatches
import BarDaemon.AgendaReceipts
import BarDaemon.AgendaRecords
import BarDaemon.AgendaRequests
import BarDaemon.AgendaServiceRefreshes
import BarDaemon.AgendaStore
import BarDaemon.AgendaSummaries
import BarDaemon.Attempts
import BarDaemon.AudioCoalescing
import BarDaemon.AudioCommands
import BarDaemon.AudioTurns
import BarDaemon.BatteryAlerts
import BarDaemon.BatteryChart
import BarDaemon.BatteryChartSegments
import BarDaemon.BatteryEnergy
import BarDaemon.BatteryEnergyHistory
import BarDaemon.BatteryEnergyTotals
import BarDaemon.BatteryHistory
import BarDaemon.BatteryOperationRuns
import BarDaemon.BatteryRecovery
import BarDaemon.BatteryRetention
import BarDaemon.BatterySegmentRuns
import BarDaemon.BatteryThresholdWriter
import BarDaemon.BinaryFloats
import BarDaemon.Brightness
import BarDaemon.BrightnessSteps
import BarDaemon.CalendarAcceptance
import BarDaemon.CalendarComponents
import BarDaemon.CalendarEvents
import BarDaemon.CalendarFolding
import BarDaemon.CalendarLines
import BarDaemon.CalendarText
import BarDaemon.CityCatalog
import BarDaemon.CityCatalogHistory
import BarDaemon.CityCatalogRuns
import BarDaemon.CityImports
import BarDaemon.ClampedWalks
import BarDaemon.CompactJsonDocuments
import BarDaemon.CompactJsonReading
import BarDaemon.CompactJsonSizes
import BarDaemon.DisplayApplication
import BarDaemon.DisplayBackend
import BarDaemon.DisplayChanges
import BarDaemon.DisplayCompletion
import BarDaemon.DisplayDocking
import BarDaemon.DisplayEffects
import BarDaemon.DisplayOutputs
import BarDaemon.DisplayRollback
import BarDaemon.DisplayRuns
import BarDaemon.DisplayTrials
import BarDaemon.FocusChanges
import BarDaemon.FocusRuns
import BarDaemon.FocusSettings
import BarDaemon.KeyedGrouping
import BarDaemon.KeyedStacks
import BarDaemon.LocalClocks
import BarDaemon.LocationAuthority
import BarDaemon.LocationFence
import BarDaemon.LocationRuns
import BarDaemon.LocationSchedule
import BarDaemon.MediaBindings
import BarDaemon.MediaCompletions
import BarDaemon.MediaEnrichment
import BarDaemon.MediaLimits
import BarDaemon.MediaLookups
import BarDaemon.MediaPlayers
import BarDaemon.MediaPublications
import BarDaemon.MediaSelectionHistory
import BarDaemon.MediaSelectionLaws
import BarDaemon.MediaSelectionRuns
import BarDaemon.MediaSelections
import BarDaemon.NaiveDateSuccession
import BarDaemon.NaiveDateTexts
import BarDaemon.NaiveDates
import BarDaemon.NotificationArchives
import BarDaemon.NotificationDeckProjection
import BarDaemon.NotificationDecks
import BarDaemon.NotificationEngine
import BarDaemon.NotificationExpiry
import BarDaemon.NotificationHistory
import BarDaemon.NotificationIdentifiers
import BarDaemon.NotificationIncarnations
import BarDaemon.NotificationLifecycle
import BarDaemon.NotificationLossless
import BarDaemon.NotificationModel
import BarDaemon.NotificationOwnership
import BarDaemon.NotificationPrivacy
import BarDaemon.NotificationReadBack
import BarDaemon.NotificationReading
import BarDaemon.NotificationRows
import BarDaemon.NotificationRuns
import BarDaemon.NotificationSections
import BarDaemon.NotificationStatements
import BarDaemon.NotificationStore
import BarDaemon.NotificationTables
import BarDaemon.NotificationTimeline
import BarDaemon.NotificationTimelineWindows
import BarDaemon.PowerAutomation
import BarDaemon.PowerPasses
import BarDaemon.PowerRestoration
import BarDaemon.PowerSelections
import BarDaemon.PublicationDelivery
import BarDaemon.PublicationSubscribers
import BarDaemon.Signals
import BarDaemon.SleepCriticalEngine
import BarDaemon.SleepCriticalEpisodes
import BarDaemon.SleepCriticalEvidence
import BarDaemon.SleepCriticalMonitor
import BarDaemon.SleepLid
import BarDaemon.SleepLidEpisodes
import BarDaemon.SleepListeners
import BarDaemon.SleepOutcomeRuns
import BarDaemon.SleepOutcomes
import BarDaemon.SleepPolicyPublication
import BarDaemon.SleepRendering
import BarDaemon.SleepRerendering
import BarDaemon.SleepTelemetry
import BarDaemon.SortedEntries
import BarDaemon.TableImports
import BarDaemon.Traces
import BarDaemon.TransitionRuns
import BarDaemon.UpdateAnnouncements
import BarDaemon.UpdateCatalogs
import BarDaemon.UpdateDelivery
import BarDaemon.UpdateHistory
import BarDaemon.UpdateHistoryPages
import BarDaemon.UpdateIncidents
import BarDaemon.UpdateIssueChanges
import BarDaemon.UpdateIssueProgress
import BarDaemon.UpdateIssueRecovery
import BarDaemon.UpdateIssues
import BarDaemon.WorkAreas
import BarDaemon.WorkspaceBackend
import BarDaemon.WorkspaceChanges
import BarDaemon.WorkspaceDurability
import BarDaemon.WorkspaceHandoffs
import BarDaemon.WorkspaceReceipts
import BarDaemon.WorkspaceRefinement
import BarDaemon.WorkspaceRequests
import BarDaemon.WorkspaceService
import BarDaemon.ZoneTables
